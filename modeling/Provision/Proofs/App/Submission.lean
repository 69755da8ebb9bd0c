/-
The form of a running session is the form that was submitted.

A session starts with the form as it is, and while it runs no message changes
the form (`Step.running`).  So at any time during a session the form still
holds what the session was started with, and submitting it would lead to the
command that was sent (`History.submitted`); it can be read off the screen.

Main result: `running_form_submitted`.
-/
import Provision.Headless.Run
import Provision.Proofs.App.History
import Provision.Proofs.Form.Submit
import Provision.View.Form

namespace Provision

/-- The row of a field whose text fits, while the form is locked: the text stands
behind the label. -/
theorem View.fieldLine_of_fits {f : Form} {field : Field} {input : Input}
    (h : f.firstFault? = none) (hshown : field ∈ f.visible) (hinput : f.input? field = some input) :
    fieldLine f true field =
      [labelSpan field false, ⟨" ", {}⟩, ⟨input.shown field.isSecret, Theme.primary⟩] := by
  have hfault : Form.fault? input.value = none := by
    have hfits := List.findSome?_eq_none_iff.mp h field hshown
    rwa [hinput, Option.bind_some, Option.map_eq_none_iff] at hfits
  have hempty : input.isEmpty = false := by
    rw [Input.isEmpty, ← Bool.not_eq_true]
    intro hempty
    rw [Form.fault?, if_pos hempty] at hfault
    cases hfault
  rw [fieldLine, hinput]
  simp [inputLine, hempty]

namespace App

variable {a a' : App} {m : Message} {action : Option Action} {settings : Settings}
  {endpoint : String} {rs : List Round}

/-- If a session runs after a message, then the message has started it with the form,
or it ran before and the message has left the form alone. -/
theorem Step.running (h : Step a m a' action) (hrun : a'.inProgress = true) :
    (∃ request, m = .command .submit ∧ a.form.submit = .ok request ∧ a'.form = a.form ∧
      action = some (.start a.endpoint (Request.Command.encode request))) ∨
    a.inProgress = true ∧ a'.form = a.form ∧
      ∀ endpoint command, action ≠ some (.start endpoint command) := by
  cases h with
  | aside => exact .inr ⟨hrun, rfl, nofun⟩
  | edit hedit =>
    -- The form is locked.
    have hran : a.inProgress = true := hrun
    rw [editOf_of_running hran] at hedit
    cases hedit
  | reject _ hidle => exact absurd (hidle.symm.trans hrun) (by decide)
  | start hm _ hs => exact .inl ⟨_, hm, hs, rfl, rfl⟩
  | opened hran => exact .inr ⟨hran, rfl, nofun⟩
  | stop _ _ _ hover => exact absurd (hover.symm.trans hrun) (by decide)

/-- The round submits the form, leaves it as it is, and starts a session with the
request. -/
structure Round.Submits (f : Form) (request : Request) (endpoint : String) (r : Round) : Prop where
  message : r.message = .command .submit
  before : r.app.form = f
  after : r.next.form = f
  action : r.action = some (.start endpoint (Request.Command.encode request))

/-- While a session runs the form is the one that it was started with. -/
theorem History.submitted (h : History settings endpoint rs a) (hrun : a.inProgress = true) :
    ∃ request, a.form.submit = .ok request ∧
      Since (Round.Submits a.form request endpoint) Round.StartsNone rs := by
  induction h with
  | start => cases hrun
  | between _ _ _ ih => exact ih hrun
  | @update rs a m h ih =>
    have hrunning := (a.step_update m).running hrun
    rcases hrunning with ⟨request, hm, hs, hform, haction⟩ | ⟨hran, hform, hnone⟩
    · -- This message is the submit that is looked for.
      rw [h.settings_endpoint.2] at haction
      rw [hform]
      exact ⟨request, hs, since_concat_iff.mpr (.inl ⟨hm, rfl, hform, haction⟩)⟩
    · -- The submit lies further back, and the form has not changed since.
      obtain ⟨request, hs, hsince⟩ := ih hran
      rw [hform]
      exact ⟨request, hs, since_concat_iff.mpr (.inr ⟨hsince, hnone⟩)⟩

/-- The locked form is the submitted form.  Whatever an application has gone
through, its settings and its endpoint are those that it was started with; and
while a session runs, its form, protocol and focus included, is the form that the
last submit that was accepted has come to and left.  To submit it would still
succeed, with the request whose command was in the last start that was asked for,
and which the backend reads from that command.  The texts of the request are
those of the fields shown; each of these stands in its row on the screen, a
secret as bullets; and a report of the submit names the server and the
protocol of the request, whenever it is made. -/
theorem running_form_submitted (h : History settings endpoint rs a) :
    a.settings = settings ∧ a.endpoint = endpoint ∧
      (a.inProgress = true → ∃ request,
        a.form.submit = .ok request ∧
        Since (Round.Submits a.form request endpoint) Round.StartsNone rs ∧
        Request.Command.decode (Request.Command.encode request) = .ok request ∧
        request.texts =
          a.form.visible.filterMap (fun field => (a.form.input? field).map (·.value)) ∧
        (∀ field ∈ a.form.visible, ∀ input, a.form.input? field = some input →
          View.fieldLine a.form a.inProgress field =
            [View.labelSpan field false, ⟨" ", {}⟩,
              ⟨input.shown field.isSecret, View.Theme.primary⟩]) ∧
        ∀ before, Headless.report a (.phaseChanged before .connecting) =
          [.submitted request.protocol.wireName request.remote.display endpoint]) := by
  obtain ⟨hsettings, hendpoint⟩ := h.settings_endpoint
  refine ⟨hsettings, hendpoint, fun hrun => ?_⟩
  obtain ⟨request, hsubmit, hsince⟩ := h.submitted hrun
  obtain ⟨hrequest, hfits⟩ := Form.submit_eq_ok hsubmit
  have hdecode : Request.Command.decode (Request.Command.encode request) = .ok request := by
    rw [hrequest]
    exact (Request.Command.decode_encode_iff _).mpr (a.form.firstFault?_eq_none_iff.mp hfits)
  refine ⟨request, hsubmit, hsince, hdecode, ?_, ?_, fun before => ?_⟩
  · rw [hrequest]
    exact a.form.texts_request
  · intro field hshown input hinput
    rw [hrun]
    exact View.fieldLine_of_fits hfits hshown hinput
  · rw [hrequest, ← hendpoint]
    rfl

/-- A session fails, and the form is edited and submitted again; then keys are
pressed that would edit it. -/
def resubmitted : List Message :=
  fillingKeys ++ [.key .enter, .event .opened, .event (.error "lost"), .key (.char 'q'),
    .key .enter, .key .backspace, .command .nextProtocol]

/-- The form is the one of the second submit. -/
theorem running_form_submitted_again :
    ∃ rs a, a = (App.start {} "x").dispatchAll resubmitted ∧ History {} "x" rs a ∧
      a.inProgress = true ∧
      Since (Round.Submits a.form ⟨.outline, "h", "u", "pq", none⟩ "x") Round.StartsNone rs ∧
      ∀ before, Headless.report a (.phaseChanged before .connecting) =
        [.submitted "outline" "h:22" "x"] := by
  have h := history_rounds {} "x" resubmitted
  obtain ⟨-, -, hlocked⟩ := running_form_submitted h
  obtain ⟨request, hsubmit, hsince, -, -, -, hreport⟩ := hlocked (by decide)
  obtain rfl : ⟨.outline, "h", "u", "pq", none⟩ = request := by
    refine Except.ok.inj (Eq.trans ?_ hsubmit)
    rfl
  exact ⟨_, _, rfl, h, by decide, hsince, hreport⟩

end App

end Provision
