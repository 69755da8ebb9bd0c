/-
The window of the log.

The rows of a log are those of its entries, one after the other (`logRows`): an
entry has a row for each of its lines, at least one, and the time stands in the
first of them.  The log area shows the rows from the offset of its view on, as
many as fit (`inSight`, `shows_drawLog`), and nothing that is drawn around or after
it hides them (`beneath_log`).  So the status, which is drawn afterwards from the
view that drawing the log has left behind, tells the first and the last row that
are really there (`beneath_status`).

The rows of a log stay when it grows (`logRows_append`), and a view that does not
follow keeps its offset; so what is in sight stays in its place.

Main result: `window_shown`.
-/
import Provision.Proofs.Log.Scroll
import Provision.Proofs.View.Alike
import Provision.Proofs.View.Parts

namespace Provision.View

open Screen

variable {s : Screen} {a : Area} {entries : List LogEntry} {phase : Phase} {view : LogView}

/-! ### Rows -/

/-- The rows of a log. -/
def logRows (entries : List LogEntry) : List Line :=
  entries.flatMap entryLines

/-- What stands before the text of row `i` of an entry: the time, and below it a gap as
wide. -/
def gutter (entry : LogEntry) (i : Nat) : Span :=
  let time := " " ++ entry.time.display ++ " "
  if i = 0 then ⟨time, Theme.muted⟩ else ⟨String.ofList (List.replicate time.length ' '), {}⟩

theorem length_entryLines (entry : LogEntry) :
    (entryLines entry).length = max 1 (Text.lines entry.message.toList).length := by
  rcases hlines : Text.lines entry.message.toList with - | ⟨first, rest⟩
  · simp only [entryLines, messageLines, hlines, List.length_cons, List.length_map,
      List.length_nil]
    rfl
  · simp only [entryLines, messageLines, hlines, List.map_cons, List.length_cons, List.length_map]
    omega

/-- Row `i` of an entry shows its line `i`; an entry without lines has an empty row. -/
theorem getElem?_entryLines (entry : LogEntry) {i : Nat} (hi : i < (entryLines entry).length) :
    (entryLines entry)[i]? = some [gutter entry i,
      ⟨String.ofList ((Text.lines entry.message.toList)[i]?.getD []), Theme.primary⟩] := by
  rw [length_entryLines] at hi
  rcases hlines : Text.lines entry.message.toList with - | ⟨first, rest⟩
  · rw [hlines] at hi
    obtain rfl : i = 0 := by
      simp only [List.length_nil] at hi
      omega
    simp only [entryLines, messageLines, hlines]
    rfl
  · rw [hlines, List.length_cons] at hi
    cases i with
    | zero =>
      simp only [entryLines, messageLines, hlines, List.map_cons]
      rfl
    | succ i =>
      have hi : i < rest.length := by omega
      simp only [entryLines, messageLines, hlines, List.map_cons, List.getElem?_cons_succ,
        List.getElem?_map, List.getElem?_eq_getElem hi, Option.map_some, Option.getD_some]
      rfl

theorem entryLines_ne_nil (entry : LogEntry) : entryLines entry ≠ [] := by
  apply List.ne_nil_of_length_pos
  rw [length_entryLines]
  omega

theorem logRows_append (entries more : List LogEntry) :
    logRows (entries ++ more) = logRows entries ++ logRows more :=
  List.flatMap_append

/-- The last row of a log is the last one of its newest entry. -/
theorem getLast?_logRows (h : entries ≠ []) :
    (logRows entries).getLast? = (entryLines (entries.getLast h)).getLast? := by
  have hrows : logRows entries = logRows entries.dropLast ++ entryLines (entries.getLast h) := by
    have hlast : logRows [entries.getLast h] = entryLines (entries.getLast h) :=
      List.append_nil _
    rw [← hlast, ← logRows_append, List.dropLast_concat_getLast]
  rw [hrows, List.getLast?_append, List.getLast?_eq_some_getLast (entryLines_ne_nil _),
    Option.some_or]

theorem length_logRows_pos (h : entries ≠ []) : 0 < (logRows entries).length := by
  apply List.length_pos_iff.mpr
  intro hnone
  have hlast := getLast?_logRows h
  rw [hnone, List.getLast?_nil] at hlast
  exact entryLines_ne_nil _ (List.getLast?_eq_none_iff.mp hlast.symm)

/-! ### Rows in sight -/

/-- The rows that a view has in sight. -/
def inSight (rows : List Line) (v : LogView) : List Line :=
  rows.extract v.offset (min (v.offset + v.height) rows.length)

variable {rows : List Line} {v : LogView}

theorem inSight_eq_take (rows : List Line) (v : LogView) :
    inSight rows v = (rows.drop v.offset).take v.height := by
  rw [inSight, List.extract_eq_take_drop, List.take_eq_take_iff, List.length_drop]
  omega

theorem length_inSight (rows : List Line) (v : LogView) :
    (inSight rows v).length = min v.height (rows.length - v.offset) := by
  rw [inSight_eq_take, List.length_take, List.length_drop]

/-- A view in range is filled if there are rows enough. -/
theorem length_inSight_of_le (hv : v.InRange) (htotal : v.total = rows.length)
    (h : v.height ≤ rows.length) : (inSight rows v).length = v.height := by
  have hoffset : v.offset ≤ v.total - v.height := hv.offset_le
  rw [length_inSight]
  omega

/-- A view that follows ends with the last row. -/
theorem getLast?_inSight (hv : v.InRange) (htotal : v.total = rows.length)
    (hheight : 0 < v.height) (hrows : 0 < rows.length) (hfollow : v.follow = true) :
    (inSight rows v).getLast? = rows.getLast? := by
  have hoffset : v.offset = v.total - v.height := hv.at_end hfollow
  -- At the end there are no more rows than fit.
  have hall : (rows.drop v.offset).take v.height = rows.drop v.offset := by
    apply List.take_of_length_le
    rw [List.length_drop]
    omega
  rw [inSight_eq_take, hall, List.getLast?_drop, if_neg (by omega)]

/-- A view that does not follow has in sight what it had when there are more rows, and
below it perhaps more. -/
theorem inSight_resize (hfollow : v.follow = false) (hin : v.offset ≤ rows.length - v.height)
    (more : List Line) :
    inSight rows v <+: inSight (rows ++ more) (v.resize (rows ++ more).length v.height) := by
  have hstays : (v.resize (rows ++ more).length v.height).offset = v.offset := by
    apply LogView.offset_resize hfollow
    rw [List.length_append]
    omega
  have hheight : (v.resize (rows ++ more).length v.height).height = v.height := rfl
  rw [inSight_eq_take, inSight_eq_take, hstays, hheight,
    List.drop_append_of_le_length (Nat.le_trans hin (Nat.sub_le _ _)), List.take_append]
  exact List.prefix_append _ _

/-! ### The log area -/

/-- What is noted of a log are the number of its rows and the room for them. -/
theorem drawLog_snd (s : Screen) (a : Area) (entries : List LogEntry) (phase : Phase)
    (view : LogView) :
    (drawLog s a entries phase view).2 =
      view.resize (logRows entries).length a.shrink.height := by
  cases entries with
  | nil => rfl
  | cons entry rest =>
    simp only [drawLog, List.isEmpty_cons, Bool.false_eq_true, if_false]
    split <;> rfl

theorem noted_drawLog (s : Screen) (a : Area) (entries : List LogEntry) (phase : Phase)
    (view : LogView) :
    (drawLog s a entries phase view).2.InRange ∧
      (drawLog s a entries phase view).2.total = (logRows entries).length ∧
      (drawLog s a entries phase view).2.height = a.shrink.height ∧
      (drawLog s a entries phase view).2.follow = view.follow := by
  rw [drawLog_snd]
  exact ⟨view.inRange_resize _ _, rfl, rfl, rfl⟩

/-- The frame and the title of the log. -/
theorem sameBut_box (h : s.Spans a) (style : Style) (text : String) :
    SameBut a.Border s ((s.frame a style).title a text) :=
  (sameBut_frame h style).trans (sameBut_title ((sameBut_frame h style).spans h) text)

theorem sameBut_drawLog (h : s.Spans a) (entries : List LogEntry) (phase : Phase)
    (view : LogView) : SameBut a.Has s (drawLog s a entries phase view).1 := by
  have hbox := (sameBut_box h Theme.muted
    (" Progress (" ++ toString entries.length ++ ") ")).mono (Q := a.Has) fun _ _ hin => hin.1
  have hinner : ∀ (t : Screen) (align : Screen.Alignment) (lines : List Line),
      SameBut a.Has t (t.paragraph a.shrink align lines) := by
    intro t align lines
    exact (t.sameBut_paragraph a.shrink align lines).mono fun _ _ => Area.has_of_shrink
  rw [drawLog]
  dsimp only
  split
  · exact hbox.trans (hinner _ _ _)
  · split
    · exact (hbox.trans (hinner _ _ _)).trans
        ((sameBut_scrollbar _ _ _ _).mono fun _ _ hin => hin.1)
    · exact hbox.trans (hinner _ _ _)

/-- The rows inside the frame show what the view has in sight. -/
theorem shows_drawLog (hentries : entries ≠ []) (hroom : a.shrink.isEmpty = false)
    (hon : s.Covers a) (phase : Phase) (view : LogView) :
    s.Shows (drawLog s a entries phase view).1 a.shrink
      (inSight (logRows entries) (drawLog s a entries phase view).2) := by
  have hborder : ∀ x y, a.shrink.Has x y → ¬ a.Border x y := fun _ _ => Area.not_border_of_shrink
  have hbox := sameBut_box (hon.spans_of_shrink hroom) Theme.muted
    (" Progress (" ++ toString entries.length ++ ") ")
  -- The frame is drawn before the rows, and the scrollbar after them.
  have hrows := (shows_paragraph (hbox.covers hon.shrink hborder)
    (inSight (logRows entries) (drawLog s a entries phase view).2)).under hbox hborder
  rw [drawLog_snd, inSight_eq_take] at hrows ⊢
  simp only [drawLog, List.isEmpty_eq_false_iff.mpr hentries, Bool.false_eq_true, if_false]
  split
  · exact hrows.over (sameBut_scrollbar _ _ _ _) hborder
  · exact hrows

/-- Drawn again with more entries, a view that does not follow has in sight what it
had. -/
theorem inSight_drawLog_append (hfollow : view.follow = false) (s s' : Screen) (a : Area)
    (entries more : List LogEntry) (phase phase' : Phase) :
    inSight (logRows entries) (drawLog s a entries phase view).2 <+:
      inSight (logRows (entries ++ more))
        (drawLog s' a (entries ++ more) phase' (drawLog s a entries phase view).2).2 := by
  have hrange := view.inRange_resize (logRows entries).length a.shrink.height
  have hstill : (view.resize (logRows entries).length a.shrink.height).follow = false := hfollow
  rw [drawLog_snd, drawLog_snd, logRows_append]
  exact inSight_resize hstill hrange.offset_le (logRows more)

/-- What it shows then is in its place. -/
theorem stays_drawLog_append (hentries : entries ≠ []) (hroom : a.shrink.isEmpty = false)
    (hon : s.Covers a) (hfollow : view.follow = false) (more : List LogEntry)
    (phase phase' : Phase) {j k : Nat} (hj : j < a.shrink.width)
    (hk : k < (inSight (logRows entries) (drawLog s a entries phase view).2).length) :
    (drawLog s a (entries ++ more) phase' (drawLog s a entries phase view).2).1.cell?
        (a.shrink.x + j) (a.shrink.y + k) =
      (drawLog s a entries phase view).1.cell? (a.shrink.x + j) (a.shrink.y + k) := by
  have hgrown : entries ++ more ≠ [] := List.append_ne_nil_of_left_ne_nil hentries more
  have hshows := shows_drawLog hentries hroom hon phase view
  have hagain := shows_drawLog hgrown hroom hon phase' (drawLog s a entries phase view).2
  have hkept := inSight_drawLog_append hfollow s s a entries more phase phase'
  have hfits : k < a.shrink.height := by
    obtain ⟨-, -, hheight, -⟩ := noted_drawLog s a entries phase view
    rw [length_inSight, hheight] at hk
    omega
  exact hshows.cell?_eq_of_prefix hagain hkept hj hk hfits

/-! ### The whole screen -/

/-- The screen before anything is drawn. -/
def backdrop (width height : Nat) : Screen :=
  (Screen.blank width height).restyle ⟨0, 0, width, height⟩ (.paper Theme.backdrop)

/-- The parts of a screen of this size. -/
def partsOf (b : App) (width height : Nat) : Layout :=
  Layout.create ⟨0, 0, width, height⟩ b.form.visible.length

/-- The header and the form. -/
def aboveLog (b : App) (width height : Nat) : Screen :=
  let s := drawHeader (backdrop width height) (partsOf b width height).header b.endpoint b.phase
  drawForm s (partsOf b width height).form b.form b.inProgress b.formError

/-- The screen as the application is drawn, but for the dialog on top of it. -/
def beneath (b : App) (width height : Nat) : Screen :=
  drawStatus (drawUpper b width height).1 (partsOf b width height).status (draw b width height).2

variable {b : App} {width height : Nat}

theorem drawUpper_eq (b : App) (width height : Nat) :
    drawUpper b width height =
      drawLog (aboveLog b width height) (partsOf b width height).log b.log.entries b.phase
        b.log.view :=
  rfl

theorem draw_snd (b : App) (width height : Nat) :
    (draw b width height).2 = b.onLog (·.scroll fun _ => (drawUpper b width height).2) := by
  simp only [draw_eq, drawLower]
  split <;> rfl

theorem draw_fst (b : App) (width height : Nat) :
    (draw b width height).1 = match b.mode with
      | .normal => beneath b width height
      | .confirm =>
        drawDialog (beneath b width height) (beneath b width height).area quitPrompt := by
  have hafter : (b.onLog (·.scroll fun _ => (drawUpper b width height).2)).mode = b.mode := rfl
  rcases hmode : b.mode <;>
  · simp only [beneath, draw_eq, drawLower, hafter, hmode]
    rfl

theorem stacked_partsOf (b : App) (width height : Nat) :
    (partsOf b width height).Stacked width height :=
  stacked_create width height b.form.visible.length

theorem covers_backdrop (h : (backdrop width height).Spans a) :
    (backdrop width height).Covers a := by
  intro x y hin
  have hon : x < width ∧ y < height := by
    have hright : a.x + a.width ≤ width := h.right_le
    have hbottom : a.y + a.height ≤ height := h.bottom_le
    simp only [Area.Has] at hin
    omega
  rw [backdrop, restyle, cell?_modifyArea, cell?_blank, if_pos hon]
  rfl

theorem sameBut_aboveLog (b : App) (width height : Nat) :
    SameBut
      (fun x y => (partsOf b width height).header.Has x y ∨ (partsOf b width height).form.Has x y)
      (backdrop width height) (aboveLog b width height) := by
  have hparts := stacked_partsOf b width height
  obtain ⟨hspans, -⟩ := hparts.spans (s := backdrop width height) rfl rfl
  have hcolumns := hparts.columns _ (List.mem_cons_self ..)
  have hheader := sameBut_drawHeader hspans hcolumns b.endpoint b.phase
  obtain ⟨-, hspans, -⟩ := hparts.spans hheader.width hheader.height
  have hform := sameBut_drawForm hspans b.form b.inProgress b.formError
  exact (hheader.mono fun _ _ => Or.inl).trans (hform.mono fun _ _ => Or.inr)

/-- The log shows what its view has in sight, whatever is drawn around it. -/
theorem beneath_log (hentries : b.log.entries ≠ [])
    (hroom : (partsOf b width height).log.shrink.isEmpty = false) :
    (backdrop width height).Shows (beneath b width height) (partsOf b width height).log.shrink
      (inSight (logRows b.log.entries) (draw b width height).2.log.view) := by
  have hparts := stacked_partsOf b width height
  obtain ⟨-, -, hspans, -⟩ := hparts.spans (s := backdrop width height) rfl rfl
  have habove := sameBut_aboveLog b width height
  have hcovers := habove.covers (covers_backdrop hspans) fun x y hin =>
    not_or.mpr (hparts.above_log hin)
  have hlog := shows_drawLog hentries hroom hcovers b.phase b.log.view
  have hunder := hlog.under habove fun x y hin =>
    not_or.mpr (hparts.above_log (Area.has_of_shrink hin))
  rw [draw_snd]
  -- The status is drawn after the log, below it.
  refine hunder.over (sameBut_drawStatus _ _ _) fun x y hin hstatus => ?_
  exact (hparts.above_status hstatus).2.2 (Area.has_of_shrink hin)

/-- The status shows its line for the view that drawing the log has left behind. -/
theorem beneath_status (b : App) (width height : Nat) :
    (backdrop width height).Shows (beneath b width height) (partsOf b width height).status.dropRow
      [statusLine (draw b width height).2] := by
  have hparts := stacked_partsOf b width height
  obtain ⟨-, -, -, hspans⟩ := hparts.spans (s := backdrop width height) rfl rfl
  have habove := sameBut_aboveLog b width height
  obtain ⟨-, -, hspansLog, -⟩ := hparts.spans habove.width habove.height
  have hlog := sameBut_drawLog hspansLog b.log.entries b.phase b.log.view
  have hout : ∀ x y, (partsOf b width height).status.Has x y →
      ¬ ((partsOf b width height).header.Has x y ∨ (partsOf b width height).form.Has x y) ∧
        ¬ (partsOf b width height).log.Has x y := by
    intro x y hin
    obtain ⟨hheader, hform, hlog⟩ := hparts.above_status hin
    exact ⟨not_or.mpr ⟨hheader, hform⟩, hlog⟩
  have hcovers := hlog.covers (habove.covers (covers_backdrop hspans) fun x y hin =>
    (hout x y hin).1) fun x y hin => (hout x y hin).2
  have hrow : ∀ x y, (partsOf b width height).status.dropRow.Has x y →
      (partsOf b width height).status.Has x y := fun _ _ hin => (has_of_dropRow hin).1
  have hstatus := shows_drawStatus hcovers (draw b width height).2
  -- What is drawn before the status is beside it: the log, and what is above that.
  exact (hstatus.under hlog fun x y hin => (hout x y (hrow x y hin)).2).under habove
    fun x y hin => (hout x y (hrow x y hin)).1

/-- The line of the status ends with the place in the log. -/
theorem logPosition_suffix (b : App) :
    [⟨logPosition b.log.view, Theme.muted⟩, ⟨" ", {}⟩] <:+ statusLine b := by
  rw [statusLine]
  refine .trans ?_ (List.suffix_append _ _)
  exact List.suffix_append [_, _, _, _, _] _

/-- The place in the log is the number of the first row in sight and that of the last. -/
theorem logPosition_eq (hv : v.InRange) (htotal : v.total = rows.length) (hheight : 0 < v.height)
    (hrows : 0 < rows.length) :
    ∃ first last, first = v.offset + 1 ∧ first ≤ last ∧ last ≤ rows.length ∧
      inSight rows v = rows.extract (first - 1) last ∧
      logPosition v = toString first ++ "-" ++ toString last ++ "/" ++ toString rows.length := by
  have hoffset : v.offset ≤ v.total - v.height := hv.offset_le
  refine ⟨v.offset + 1, min (v.offset + v.height) rows.length, rfl, by omega, Nat.min_le_right _ _,
    rfl, ?_⟩
  rw [logPosition, htotal, if_neg (Nat.pos_iff_ne_zero.mp hrows)]

/-- So the status of a screen tells which rows of the log are on it. -/
theorem statusLine_draw (hentries : b.log.entries ≠ [])
    (hroom : (partsOf b width height).log.shrink.isEmpty = false) :
    ∃ first last, first = (draw b width height).2.log.view.offset + 1 ∧ first ≤ last ∧
      last ≤ (logRows b.log.entries).length ∧
      inSight (logRows b.log.entries) (draw b width height).2.log.view =
        (logRows b.log.entries).extract (first - 1) last ∧
      [⟨toString first ++ "-" ++ toString last ++ "/" ++ toString (logRows b.log.entries).length,
        Theme.muted⟩, ⟨" ", {}⟩] <:+ statusLine (draw b width height).2 := by
  have hrows := length_logRows_pos hentries
  obtain ⟨-, hheight⟩ := (partsOf b width height).log.shrink.isEmpty_eq_false_iff.mp hroom
  obtain ⟨hrange, htotal, hroomy, -⟩ := noted_drawLog (aboveLog b width height)
    (partsOf b width height).log b.log.entries b.phase b.log.view
  have hview : (draw b width height).2.log.view = (drawUpper b width height).2 := by
    rw [draw_snd]
    rfl
  rw [← drawUpper_eq, ← hview] at hrange htotal hroomy
  obtain ⟨first, last, hfirst, hle, hlast, hseen, htext⟩ :=
    logPosition_eq hrange htotal (hroomy ▸ hheight) hrows
  have hsuffix := logPosition_suffix (draw b width height).2
  rw [htext] at hsuffix
  exact ⟨first, last, hfirst, hle, hlast, hseen, hsuffix⟩

/-- The log shows the right rows, and the status tells which.  Let a log have entries.
Each of them has a row for every line, or one if there is none, and the time stands in
the first row.  In any area with room inside its frame, and whatever its view was,
the rows from the offset of the view on are shown, as many as fit, one to a row: they
fill the area if there are enough; if the view follows, the last of them is the last
row of the newest entry; if it does not, they stay where they are when the log is
drawn again with more entries.  On a screen of any size nothing hides them but the
dialog, and the status, which is not hidden either, tells the numbers of the first and
the last one. -/
theorem window_shown (hentries : entries ≠ []) :
    (∀ entry : LogEntry,
      (entryLines entry).length = max 1 (Text.lines entry.message.toList).length ∧
      ∀ i, i < (entryLines entry).length → (entryLines entry)[i]? = some [gutter entry i,
        ⟨String.ofList ((Text.lines entry.message.toList)[i]?.getD []), Theme.primary⟩]) ∧
    (∀ (s : Screen) (a : Area) (phase : Phase) (view : LogView),
      a.shrink.isEmpty = false → s.Covers a →
      let drawn := drawLog s a entries phase view
      let seen := inSight (logRows entries) drawn.2
      (drawn.2.total = (logRows entries).length ∧ drawn.2.height = a.shrink.height ∧
        drawn.2.follow = view.follow) ∧
      s.Shows drawn.1 a.shrink seen ∧
      (a.shrink.height ≤ (logRows entries).length → seen.length = a.shrink.height) ∧
      (view.follow = true →
        seen.getLast? = (entryLines (entries.getLast hentries)).getLast?) ∧
      (view.follow = false → ∀ (phase' : Phase) (more : List LogEntry),
        let again := drawLog s a (entries ++ more) phase' drawn.2
        seen <+: inSight (logRows (entries ++ more)) again.2 ∧
        ∀ j k, j < a.shrink.width → k < seen.length →
          again.1.cell? (a.shrink.x + j) (a.shrink.y + k) =
            drawn.1.cell? (a.shrink.x + j) (a.shrink.y + k))) ∧
    ∀ (b : App) (width height : Nat), b.log.entries = entries →
      (partsOf b width height).log.shrink.isEmpty = false →
      let after := (draw b width height).2
      let seen := inSight (logRows entries) after.log.view
      ((draw b width height).1 = match b.mode with
        | .normal => beneath b width height
        | .confirm =>
          drawDialog (beneath b width height) (beneath b width height).area quitPrompt) ∧
      (backdrop width height).Shows (beneath b width height)
        (partsOf b width height).log.shrink seen ∧
      (backdrop width height).Shows (beneath b width height)
        (partsOf b width height).status.dropRow [statusLine after] ∧
      ∃ first last, first = after.log.view.offset + 1 ∧ first ≤ last ∧
        last ≤ (logRows entries).length ∧
        seen = (logRows entries).extract (first - 1) last ∧
        [⟨toString first ++ "-" ++ toString last ++ "/" ++ toString (logRows entries).length,
          Theme.muted⟩, ⟨" ", {}⟩] <:+ statusLine after := by
  have hrows := length_logRows_pos hentries
  refine ⟨fun entry => ⟨length_entryLines entry, fun i hi => getElem?_entryLines entry hi⟩,
    fun s a phase view hroom hon => ?_, fun b width height hlog hroom => ?_⟩
  · obtain ⟨-, hheight⟩ := a.shrink.isEmpty_eq_false_iff.mp hroom
    obtain ⟨hrange, htotal, hroomy, hfollow⟩ := noted_drawLog s a entries phase view
    have hshows := shows_drawLog hentries hroom hon phase view
    refine ⟨⟨htotal, hroomy, hfollow⟩, hshows, fun hfull => ?_, fun hfollows => ?_,
      fun hstill phase' more => ⟨?_, fun j k hj hk => ?_⟩⟩
    · rw [← hroomy] at hfull ⊢
      exact length_inSight_of_le hrange htotal hfull
    · rw [← getLast?_logRows]
      exact getLast?_inSight hrange htotal (hroomy ▸ hheight) hrows (hfollow.trans hfollows)
    · exact inSight_drawLog_append hstill s s a entries more phase phase'
    · exact stays_drawLog_append hentries hroom hon hstill more phase phase' hj hk
  · subst hlog
    exact ⟨draw_fst b width height, beneath_log hentries hroom, beneath_status b width height,
      statusLine_draw hentries hroom⟩

/-- An entry of two lines: both are shown where there is room for them, and on a screen
that has none for the first one the status says so. -/
theorem window_shown_two_lines :
    let entry : LogEntry := ⟨0, {}, .info, "a\nb"⟩
    let b : App := { log := { entries := [entry] } }
    let drawn := drawLog (backdrop 20 4) ⟨0, 0, 20, 4⟩ [entry] .idle {}
    (backdrop 20 4).Shows drawn.1 ⟨1, 1, 18, 2⟩ (inSight (logRows [entry]) drawn.2) ∧
      (inSight (logRows [entry]) drawn.2).length = 2 ∧
      [⟨"2-2/2", Theme.muted⟩, ⟨" ", {}⟩] <:+ statusLine (draw b 80 5).2 := by
  intro entry b drawn
  have htwo : (logRows [entry]).length = 2 := by decide +kernel
  have hentries : [entry] ≠ [] := List.cons_ne_nil _ _
  obtain ⟨-, harea, hscreen⟩ := window_shown hentries
  obtain ⟨-, hshows, hfull, -⟩ := harea (backdrop 20 4) ⟨0, 0, 20, 4⟩ .idle {} rfl
    (covers_backdrop ⟨Nat.le_refl 20, Nat.le_refl 4⟩)
  obtain ⟨-, -, -, first, last, hfirst, hle, hlast, -, hstatus⟩ := hscreen b 80 5 rfl (by decide)
  have hoffset : (draw b 80 5).2.log.view.offset = 1 := by decide +kernel
  obtain rfl : first = 2 := by omega
  obtain rfl : last = 2 := by omega
  rw [htwo] at hstatus
  exact ⟨hshows, hfull (Nat.le_of_eq htwo.symm), hstatus⟩

end Provision.View
