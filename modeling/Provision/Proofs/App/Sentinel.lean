/-
The message that ends a session.

The sentinel is looked for in the text of a message, and bytes are read as text
first.  Since no other bytes are read as the sentinel
(`lossyText_eq_sentinel_iff`), a message ends the session exactly if its bytes
are those of the sentinel, whether it came as text or as bytes; and text comes
to the same as its bytes.

Main result: `complete_iff_sentinel`.
-/
import Provision.Proofs.App.Progress
import Provision.Proofs.Text.Utf8

namespace Provision

namespace Payload

/-- The bytes of the sentinel, one for each letter. -/
def sentinelBytes : List UInt8 :=
  [0x56, 0x50, 0x4E, 0x41, 0x54, 0x4F, 0x52, 0x2D, 0x43, 0x4F, 0x4D, 0x50, 0x4C, 0x45, 0x54, 0x45]

theorem encode_sentinel : Text.Utf8.encode sentinel.toList = sentinelBytes := by
  decide

/-- The text of a message is the sentinel only if its bytes are. -/
theorem lossyText_eq_sentinel_iff (p : Payload) :
    p.lossyText = sentinel ↔ p.bytes = sentinelBytes := by
  rw [← encode_sentinel]
  cases p with
  | text s => rw [lossyText, bytes, Text.Utf8.encode_injective.eq_iff, String.toList_inj]
  | binary bs =>
    have hplain : Text.Utf8.replacement ∉ sentinel.toList := by decide
    rw [lossyText, bytes, ← Text.Utf8.decodeLossy_eq_iff hplain, ← String.toList_inj,
      String.toList_ofList]

/-- The bytes of a text are read as that text. -/
theorem lossyText_binary_encode (s : String) :
    (binary (Text.Utf8.encode s.toList)).lossyText = s := by
  rw [lossyText, Text.Utf8.decodeLossy_encode, String.ofList_toList]

end Payload

namespace App

variable {a : App} {p : Payload}

/-- Only the text of a message matters. -/
theorem receive_message_congr {q : Payload} (h : p.lossyText = q.lossyText) (a : App) :
    a.receive (.message p) = a.receive (.message q) := by
  simp only [receive, h]

theorem update_sentinel (h : a.inProgress = true) (hp : p.bytes = Payload.sentinelBytes) :
    a.update (.event (.message p)) =
      { app := { a with phase := .complete }, action := some .close } := by
  rw [update, receive_of_running h]
  simp only [if_pos (p.lossyText_eq_sentinel_iff.mpr hp)]
  rfl

theorem update_progress (h : a.inProgress = true) (hp : p.bytes ≠ Payload.sentinelBytes) :
    a.update (.event (.message p)) = { app := a.onLog (·.push a.now p.lossyText) } := by
  rw [update, receive_of_running h]
  simp only [if_neg (mt p.lossyText_eq_sentinel_iff.mp hp)]
  rfl

/-- Only the exact sentinel ends a session, whatever kind of message it comes in.
While a session runs, a message completes it exactly if its bytes are those of the
sentinel; then the connection is to be closed and nothing else changes, and any
other message becomes a line of the log and asks for nothing.  And a text leads to
the same as a message of its bytes: the same state, at the same time with the same
number for the entry, and the same action. -/
theorem complete_iff_sentinel (h : a.inProgress = true) :
    (∀ p : Payload,
      ((a.update (.event (.message p))).app.phase = .complete ↔
        p.bytes = Payload.sentinelBytes) ∧
      (p.bytes = Payload.sentinelBytes → a.update (.event (.message p)) =
        { app := { a with phase := .complete }, action := some .close, followUp := none }) ∧
      (p.bytes ≠ Payload.sentinelBytes → a.update (.event (.message p)) =
        { app := a.onLog (·.push a.now p.lossyText), action := none, followUp := none })) ∧
    ∀ s : String, a.update (.event (.message (.text s))) =
      a.update (.event (.message (.binary (Text.Utf8.encode s.toList)))) := by
  refine ⟨fun p => ⟨⟨fun hcomplete => ?_, fun hp => ?_⟩, update_sentinel h, update_progress h⟩,
    fun s => ?_⟩
  · by_contra hp
    -- A line of progress leaves the phase of a running session as it is.
    rw [update_progress h hp] at hcomplete
    have hphase : a.phase = .complete := hcomplete
    rw [inProgress, hphase] at h
    cases h
  · rw [update_sentinel h hp]
  · have hsame : (Payload.text s).lossyText =
        (Payload.binary (Text.Utf8.encode s.toList)).lossyText :=
      (Payload.lossyText_binary_encode s).symm
    exact congrArg Outcome.ofChange (receive_message_congr hsame a)

/-- The bytes of the sentinel complete a session; with one stray byte behind them
they do not. -/
theorem complete_iff_sentinel_installing :
    ∃ a : App, a.inProgress = true ∧
      (a.update (.event (.message (.binary Payload.sentinelBytes)))).app.phase = .complete ∧
      (a.update (.event (.message (.binary (Payload.sentinelBytes ++ [0xFF]))))).app.phase ≠
        .complete := by
  have hrun : ({ phase := .installing } : App).inProgress = true := rfl
  obtain ⟨hphase, -⟩ := complete_iff_sentinel hrun
  exact ⟨_, hrun, (hphase _).1.mpr rfl, fun h => absurd ((hphase _).1.mp h) (by decide)⟩

end App

end Provision
