/-
The keys beside the title.

The header looks whether there is room for the title and the keys as they are measured,
in sixteen bits: what they need together is taken modulo 65536 (`keysFit_iff`).  As long
as 65535 columns are enough, the keys are drawn exactly if there is room for both, and the
title is kept if its endpoint is shown in no more columns than it is measured as.

So there are two ways in which the keys are drawn over the endpoint
(`keys_over_endpoint`).  It has no greatest length, and can need more than 65535 columns;
and the letters of a ligature are measured as one column together, but shown in one column
each.

Main result: `keys_beside_title`.
-/
import Provision.Proofs.Endpoint.Precedence
import Provision.Proofs.Screen.Line
import Provision.Proofs.Text.Columns
import Provision.Proofs.View.Parts

namespace Provision

/-! ### Endpoints of any length -/

/-- Nothing is left out of a text without controls and spaces. -/
theorem Url.clean_of_forall {cs : List Char} (h : ∀ c ∈ cs, 0x20 < c.toNat) :
    Url.clean cs = cs := by
  have hedge : ∀ {cs : List Char}, (∀ c ∈ cs, 0x20 < c.toNat) →
      cs.dropWhile (fun c => decide (c.toNat ≤ 0x20)) = cs := by
    intro cs h
    cases cs with
    | nil => rfl
    | cons c cs =>
      have hc : 0x20 < c.toNat := h c (List.mem_cons_self ..)
      exact List.dropWhile_cons_of_neg (by simpa using hc)
  have hreverse : ∀ c ∈ cs.reverse, 0x20 < c.toNat := fun c hc => h c (List.mem_reverse.mp hc)
  rw [Url.clean, hedge h, hedge hreverse, List.reverse_reverse, List.filter_eq_self]
  intro c hc
  have hne : c ≠ '\t' ∧ c ≠ '\n' ∧ c ≠ '\r' := by
    refine ⟨?_, ?_, ?_⟩ <;>
    · rintro rfl
      exact absurd (h _ hc) (by decide)
  simp [hne]

/-- The path of an endpoint has no greatest length. -/
theorem Endpoint.isWebSocket_loopback {path : List Char} (h : ∀ c ∈ path, 0x20 < c.toNat) :
    IsWebSocket (String.ofList ("ws://[::1]/".toList ++ path)) := by
  have hvisible : ∀ c ∈ "ws://[::1]/".toList ++ path, 0x20 < c.toNat := by
    intro c hc
    rcases List.mem_append.mp hc with hc | hc
    · exact (by simp : ∀ c ∈ "ws://[::1]/".toList, 0x20 < c.toNat) c hc
    · exact h c hc
  refine ⟨⟨"ws", some (.ipv6 "::1".toList)⟩, ?_, .inl rfl, rfl⟩
  rw [Url.read, String.toList_ofList, Url.clean_of_forall hvisible]
  rfl

namespace View

open Screen

variable {s : Screen} {a : Area} {endpoint : String} {phase : Phase}

/-! ### Title and keys -/

/-- The header without the keys. -/
def drawTitle (s : Screen) (a : Area) (endpoint : String) (phase : Phase) : Screen :=
  let s := s.frame a Theme.muted
  if a.shrink.isEmpty then s
  else s.writeLine a.shrink.x a.shrink.y a.shrink.width (titleLine endpoint phase)

/-- The columns that title and keys need, as they are measured: two between them, and one
at the end. -/
def needed (endpoint : String) (phase : Phase) : Nat :=
  (titleLine endpoint phase).width + (hintLine phase).width + 3

/-- Where the title is shown, with the endpoint. -/
def titleArea (a : Area) (endpoint : String) (phase : Phase) : Area :=
  ⟨a.shrink.x, a.shrink.y, Line.columns (titleLine endpoint phase).printable, 1⟩

/-- Where the keys are. -/
def keysArea (a : Area) (phase : Phase) : Area :=
  ⟨a.shrink.right - ((hintLine phase).width + 1), a.shrink.y, (hintLine phase).width, 1⟩

/-- The keys can be read in their place. -/
def ShowsKeys (s : Screen) (a : Area) (phase : Phase) : Prop :=
  s.Reads (keysArea a phase).x (keysArea a phase).y (hintLine phase).printable

/-- The title, with the endpoint, is what it is without the keys. -/
def KeepsTitle (s : Screen) (a : Area) (endpoint : String) (phase : Phase) : Prop :=
  ∀ x y, (titleArea a endpoint phase).Has x y →
    (drawHeader s a endpoint phase).cell? x y = (drawTitle s a endpoint phase).cell? x y

/-! ### Sixteen bits -/

/-- The keys are those of a running session or those beside one. -/
theorem hintLine_cases (phase : Phase) :
    hintLine phase = hintLine .idle ∨ hintLine phase = hintLine .connecting := by
  simp only [hintLine, hints]
  cases phase.inProgress
  · exact .inl rfl
  · exact .inr rfl

/-- The keys take few columns. -/
theorem hintLine_width_le (phase : Phase) : (hintLine phase).width ≤ 126 := by
  rcases hintLine_cases phase with h | h
  · rw [h]
    exact Nat.le_trans (Line.width_le _) (by decide)
  · rw [h]
    exact Nat.le_trans (Line.width_le _) (by decide)

theorem hintLine_idle_width : (hintLine .idle).width = 42 := by
  decide +kernel

/-- The keys are shown in the columns that they are measured as. -/
theorem columns_hintLine_le (phase : Phase) :
    Line.columns (hintLine phase).printable ≤ (hintLine phase).width := by
  have hsigns : ∀ {text : String},
      (∀ c ∈ text.toList, Text.IsPlain c) ∨ (∀ c ∈ text.toList, c ∈ Text.signs) →
        Text.columns text ≤ Text.width text := by
    rintro text (hplain | hsigns)
    · exact Nat.le_of_eq (Text.columns_of_plain hplain)
    · rw [Text.width_of_signs hsigns, Text.columns_of_single fun c hc =>
        Text.isSingle_of_signs c (List.mem_cons_of_mem _ (hsigns c hc))]
  have hidle : ∀ span ∈ hintLine .idle, ∀ c ∈ span.text.toList, Text.IsPlain c := by
    simp [hintLine, hints, hint, Phase.inProgress, List.intercalate, Text.IsPlain]
  have hconnecting : ∀ span ∈ hintLine .connecting, (∀ c ∈ span.text.toList, Text.IsPlain c) ∨
      ∀ c ∈ span.text.toList, c ∈ Text.signs := by
    simp [hintLine, hints, hint, Phase.inProgress, List.intercalate, Text.IsPlain, Text.signs]
  refine Line.columns_printable_le fun span hspan => hsigns ?_
  rcases hintLine_cases phase with h | h
  · rw [h] at hspan
    exact .inl (hidle span hspan)
  · rw [h] at hspan
    exact hconnecting span hspan

/-- A key begins with a bracket. -/
theorem hintLine_printable (phase : Phase) :
    ∃ rest, (hintLine phase).printable = (['['], 1, Theme.muted) :: rest := by
  have hfirst : ∃ rest, hintLine phase = ⟨"[", Theme.muted⟩ :: rest := by
    rcases hintLine_cases phase with h | h
    · exact ⟨_, h⟩
    · exact ⟨_, h⟩
  have hbracket : Text.printable "[" = [(['['], 1)] := rfl
  obtain ⟨rest, hrest⟩ := hfirst
  refine ⟨Line.printable rest, ?_⟩
  rw [hrest, Line.printable, List.flatMap_cons, hbracket]
  rfl

theorem keysFit_iff (title keys : Line) (room : Nat) :
    keysFit title keys room = true ↔ (title.width + keys.width + 3) % (Area.limit + 1) ≤ room := by
  have hsum : title.width + (keys.width + 1) + 2 = title.width + keys.width + 3 := by omega
  simp [keysFit, keysWidth, Area.limit, hsum]

theorem toNat_keysWidth (phase : Phase) :
    (keysWidth (hintLine phase)).toNat = (hintLine phase).width + 1 := by
  have hwidth := hintLine_width_le phase
  rw [keysWidth, UInt16.toNat_add, UInt16.toNat_ofNat']
  simp only [UInt16.toNat_one]
  omega

/-- The column of the keys, if there is one. -/
theorem toNat_keysColumn (hlimit : a.shrink.right ≤ Area.limit)
    (hroom : (hintLine phase).width + 1 ≤ a.shrink.right) :
    (UInt16.ofNat a.shrink.right - keysWidth (hintLine phase)).toNat = (keysArea a phase).x := by
  have hright : (UInt16.ofNat a.shrink.right).toNat = a.shrink.right := by
    rw [UInt16.toNat_ofNat']
    simp only [Area.limit] at hlimit
    omega
  have hle : keysWidth (hintLine phase) ≤ UInt16.ofNat a.shrink.right := by
    rw [UInt16.le_iff_toNat_le, toNat_keysWidth, hright]
    exact hroom
  rw [UInt16.toNat_sub_of_le _ _ hle, hright, toNat_keysWidth]
  rfl

/-- The title takes twelve columns beside the icon and the endpoint. -/
theorem titleLine_width (endpoint : String) (phase : Phase) :
    (titleLine endpoint phase).width =
      12 + Text.width (Theme.icon phase) + Text.width endpoint := by
  have hblank : Text.width " " = 1 := by decide +kernel
  have hname : Text.width "VPNator" = 7 := by decide +kernel
  have hslash : Text.width "/" = 1 := by decide +kernel
  simp only [titleLine, Line.width, List.foldr_cons, List.foldr_nil, hblank, hname, hslash]
  omega

theorem exists_toList_icon (phase : Phase) : ∃ c, (Theme.icon phase).toList = [c] := by
  cases phase <;>
  · rw [Theme.icon]
    exact ⟨_, rfl⟩

theorem icon_width_le (phase : Phase) : Text.width (Theme.icon phase) ≤ 3 := by
  obtain ⟨c, hicon⟩ := exists_toList_icon phase
  have hwidth := Text.width_le (Theme.icon phase)
  rwa [hicon] at hwidth

/-- If the endpoint is shown in no more columns than it is measured as, so is the title. -/
theorem columns_titleLine_le (h : Text.columns endpoint ≤ Text.width endpoint) (phase : Phase) :
    Line.columns (titleLine endpoint phase).printable ≤ (titleLine endpoint phase).width := by
  have hplain : ∀ text ∈ [" ", "VPNator", "/"], Text.columns text ≤ Text.width text := by
    have hchars : ∀ text ∈ [" ", "VPNator", "/"], ∀ c ∈ text.toList, Text.IsPlain c := by
      simp [Text.IsPlain]
    exact fun text htext => Nat.le_of_eq (Text.columns_of_plain (hchars text htext))
  obtain ⟨c, hicon⟩ := exists_toList_icon phase
  simp only [List.forall_mem_cons] at hplain
  obtain ⟨hblank, hname, hslash, -⟩ := hplain
  refine Line.columns_printable_le ?_
  simp only [titleLine, List.forall_mem_cons]
  exact ⟨hblank, Text.columns_le_of_toList_eq_singleton hicon, hblank, hname, hblank, hslash,
    hblank, h, nofun⟩

theorem columns_endpoint_le (endpoint : String) (phase : Phase) :
    Text.columns endpoint ≤ Line.columns (titleLine endpoint phase).printable := by
  rw [Line.columns_printable]
  simp only [titleLine, List.foldr_cons, List.foldr_nil]
  omega

/-! ### What is drawn -/

theorem shrink_right_le (h : s.Spans a) (hinner : a.shrink.isEmpty = false) :
    a.shrink.right ≤ s.width := by
  obtain ⟨hwidth, -⟩ := a.shrink.isEmpty_eq_false_iff.mp hinner
  obtain ⟨hright, -⟩ := h
  simp only [Area.shrink, Area.right] at *
  omega

theorem drawHeader_eq_drawTitle
    (h : a.shrink.width < needed endpoint phase % (Area.limit + 1)) :
    drawHeader s a endpoint phase = drawTitle s a endpoint phase := by
  have hfit : keysFit (titleLine endpoint phase) (hintLine phase) a.shrink.width = false := by
    rw [Bool.eq_false_iff, Ne, keysFit_iff]
    exact Nat.not_le.mpr h
  rw [drawHeader, drawTitle]
  dsimp only
  rw [hfit, if_neg Bool.false_ne_true]

theorem drawHeader_eq_writeLine (hlimit : a.shrink.right ≤ Area.limit)
    (hinner : a.shrink.isEmpty = false) (hroom : (hintLine phase).width + 1 ≤ a.shrink.right)
    (h : needed endpoint phase % (Area.limit + 1) ≤ a.shrink.width) :
    drawHeader s a endpoint phase =
      (drawTitle s a endpoint phase).writeLine (keysArea a phase).x (keysArea a phase).y
        ((hintLine phase).width + 1) (hintLine phase) := by
  rw [drawHeader, drawTitle]
  dsimp only
  rw [hinner, if_neg Bool.false_ne_true, if_neg Bool.false_ne_true,
    if_pos ((keysFit_iff _ _ _).mpr h), toNat_keysColumn hlimit hroom, toNat_keysWidth]
  rfl

/-- The title stays where it is shown. -/
theorem sameBut_drawTitle (s : Screen) (a : Area) (endpoint : String) (phase : Phase) :
    SameBut (titleArea a endpoint phase).Has (s.frame a Theme.muted)
      (drawTitle s a endpoint phase) := by
  rw [drawTitle]
  split
  · exact .refl _ _
  · exact sameBut_writeLine_columns _ _ _ _ _

/-- Every cell inside the frame is still there. -/
theorem covers_drawTitle (h : s.Covers a) (hspans : s.Spans a) :
    (drawTitle s a endpoint phase).Covers a.shrink := by
  have hframe : (s.frame a Theme.muted).Covers a.shrink :=
    (sameBut_frame hspans Theme.muted).covers h.shrink fun x y => Area.not_border_of_shrink
  rw [drawTitle]
  split
  · exact hframe
  · exact hframe.writeLine _ _ _ _

/-- Where the keys are drawn they can be read. -/
theorem showsKeys_writeLine (hcovers : s.Covers a.shrink) (hspans : s.Spans a)
    (hinner : a.shrink.isEmpty = false) (hroom : (hintLine phase).width + 1 ≤ a.shrink.width) :
    ShowsKeys (s.writeLine (keysArea a phase).x (keysArea a phase).y
      ((hintLine phase).width + 1) (hintLine phase)) a phase := by
  have hcolumns := columns_hintLine_le phase
  obtain ⟨-, hheight⟩ := a.shrink.isEmpty_eq_false_iff.mp hinner
  have hplace : a.shrink.x + a.shrink.width = a.shrink.right := rfl
  have hscreen := shrink_right_le hspans hinner
  apply reads_writeLine
  · refine fun x y hin => hcovers x y ?_
    simp only [Area.Has, keysArea] at *
    omega
  · simp only [keysArea]
    omega

/-! ### Screens without keys -/

/-- The cell is not the first one of a key. -/
def KeyFree (c : Cell) : Prop :=
  c.symbol = ['['] → c.foreground ≠ .darkGray

theorem keyFree_empty : KeyFree {} :=
  fun hbracket => absurd hbracket (by decide)

/-- Where the keys begin, a screen that shows them is not like one without keys. -/
theorem cell?_ne_of_showsKeys {t : Screen} (h : ShowsKeys t a phase) (hfree : s.Every KeyFree) :
    t.cell? (keysArea a phase).x (keysArea a phase).y ≠
      s.cell? (keysArea a phase).x (keysArea a phase).y := by
  obtain ⟨rest, hrest⟩ := hintLine_printable phase
  rw [ShowsKeys, hrest] at h
  obtain ⟨c, hc, hsame⟩ := h 0 (Nat.lt_of_lt_of_le Nat.zero_lt_one (Nat.le_add_right 1 _))
  rw [Line.inked, if_neg (Nat.not_succ_le_zero 0), if_pos rfl] at hsame
  intro heq
  have hkey : KeyFree c := hfree _ _ c (heq ▸ hc)
  rw [← hsame] at hkey
  exact hkey rfl rfl

theorem not_showsKeys (h : s.Every KeyFree) : ¬ ShowsKeys s a phase :=
  fun hshows => cell?_ne_of_showsKeys hshows h rfl

/-- Text without brackets, or in another colour, is no key. -/
theorem keyFree_put {text : String} {style : Style} {cluster : List Char × Nat}
    (htext : '[' ∉ text.toList ∨ ∃ color, style.foreground = some color ∧ color ≠ .darkGray)
    (h : cluster ∈ Text.printable text) (c : Cell) : KeyFree (c.put cluster.1 style) := by
  intro hsymbol
  rcases htext with htext | ⟨color, hcolor, hne⟩
  · have hbracket : '[' ∈ cluster.1 := by
      rw [show cluster.1 = ['['] from hsymbol]
      exact List.mem_singleton_self _
    exact absurd (Text.mem_of_mem_printable h hbracket) htext
  · simpa [Cell.put, Cell.restyle, hcolor] using hne

/-- The title is no key, whatever the endpoint is. -/
theorem keyFree_titleLine (endpoint : String) (phase : Phase) :
    ∀ span ∈ titleLine endpoint phase, '[' ∉ span.text.toList ∨
      ∃ color, span.style.foreground = some color ∧ color ≠ .darkGray := by
  have hicon : '[' ∉ (Theme.icon phase).toList := by
    cases phase <;>
    · rw [Theme.icon]
      decide
  simp only [titleLine, List.forall_mem_cons]
  exact ⟨.inl (by decide), .inl hicon, .inl (by decide), .inl (by decide), .inl (by decide),
    .inl (by decide), .inl (by decide), .inr ⟨.gray, rfl, by decide⟩, nofun⟩

theorem every_drawTitle (h : s.Every KeyFree) : (drawTitle s a endpoint phase).Every KeyFree := by
  have hframe : (s.frame a Theme.muted).Every KeyFree := by
    refine h.frame a Theme.muted fun symbol hmem c hbracket => ?_
    obtain rfl : symbol = '[' := List.singleton_inj.mp hbracket
    exact absurd hmem (by decide)
  rw [drawTitle]
  split
  · exact hframe
  · refine hframe.writeLine _ _ _ keyFree_empty fun cluster hmem c => ?_
    obtain ⟨span, hspan, hcluster⟩ := List.mem_flatMap.mp hmem
    obtain ⟨⟨shown, w⟩, hshown, rfl⟩ := List.mem_map.mp hcluster
    exact keyFree_put (keyFree_titleLine endpoint phase span hspan) hshown c

/-! ### The result -/

/-- In a row that is wide enough for them, the keys are drawn if what title and keys need
fits into it but for multiples of 65536. -/
theorem showsKeys_drawHeader (hcovers : s.Covers a) (hlimit : s.width ≤ Area.limit)
    (hinner : a.shrink.isEmpty = false) (hroom : (hintLine phase).width + 1 ≤ a.shrink.width)
    (h : needed endpoint phase % (Area.limit + 1) ≤ a.shrink.width) :
    ShowsKeys (drawHeader s a endpoint phase) a phase ∧
      SameBut (keysArea a phase).Has (drawTitle s a endpoint phase)
        (drawHeader s a endpoint phase) := by
  have hspans := hcovers.spans_of_shrink hinner
  have htitled : (drawTitle s a endpoint phase).Spans a :=
    (sameBut_drawTitle s a endpoint phase).spans ((sameBut_frame hspans Theme.muted).spans hspans)
  have hright : a.shrink.right ≤ Area.limit ∧ a.shrink.width ≤ a.shrink.right :=
    ⟨Nat.le_trans (shrink_right_le hspans hinner) hlimit, Nat.le_add_left _ _⟩
  rw [drawHeader_eq_writeLine hright.1 hinner (Nat.le_trans hroom hright.2) h]
  refine ⟨showsKeys_writeLine (covers_drawTitle hcovers hspans) htitled hinner hroom, ?_⟩
  refine (sameBut_writeLine_columns _ _ _ _ _).mono fun x y hin => ?_
  have hcolumns := columns_hintLine_le phase
  simp only [Area.Has, keysArea] at *
  omega

/-- Keys that begin behind the title leave it as it is. -/
theorem keepsTitle_of_le
    (hsame : SameBut (keysArea a phase).Has (drawTitle s a endpoint phase)
      (drawHeader s a endpoint phase))
    (h : (titleArea a endpoint phase).width + (hintLine phase).width + 1 ≤ a.shrink.width) :
    KeepsTitle s a endpoint phase := by
  refine fun x y hin => hsame.cell?_eq x y fun hkeys => ?_
  have hplace : a.shrink.x + a.shrink.width = a.shrink.right := rfl
  simp only [Area.Has, titleArea, keysArea] at *
  omega

/-- Others do not. -/
theorem le_of_keepsTitle (hfree : s.Every KeyFree)
    (hroom : (hintLine phase).width + 1 ≤ a.shrink.width)
    (hshows : ShowsKeys (drawHeader s a endpoint phase) a phase)
    (hkeeps : KeepsTitle s a endpoint phase) :
    (titleArea a endpoint phase).width + (hintLine phase).width + 1 ≤ a.shrink.width := by
  by_contra hlarge
  refine cell?_ne_of_showsKeys hshows (every_drawTitle hfree) (hkeeps _ _ ?_)
  have hplace : a.shrink.x + a.shrink.width = a.shrink.right := rfl
  simp only [Area.Has, titleArea, keysArea] at *
  omega

/-- An endpoint with a path. -/
def loopback (path : List Char) : String :=
  String.ofList ("ws://[::1]/".toList ++ path)

theorem toList_loopback (path : List Char) :
    (loopback path).toList = "ws://[::1]/".toList ++ path :=
  String.toList_ofList

theorem validate_loopback {path : List Char} (h : ∀ c ∈ path, 0x20 < c.toNat) :
    Endpoint.validate (loopback path) = .ok (loopback path) :=
  Endpoint.validate_of_isWebSocket (Endpoint.isWebSocket_loopback h)

theorem length_host : "ws://[::1]/".toList.length = 11 := by
  decide

theorem isPlain_of_mem_host : ∀ c ∈ "ws://[::1]/".toList, Text.IsPlain c := by
  simp [Text.IsPlain]

theorem width_loopback {path : List Char} {n : Nat} (hpath : (Text.readBack path).1 = n)
    (hselector : (Text.readBack path).2.selector ≠ some .emoji) :
    Text.width (loopback path) = 11 + n := by
  have hread := (Text.readBack_append_of_plain isPlain_of_mem_host path hselector).1
  rw [Text.width, Text.widthOf, toList_loopback, hread, hpath, length_host]
  omega

theorem columns_loopback {path : List Char} (h : ∀ c ∈ path, Text.IsSingle c) :
    Text.columns (loopback path) = 11 + path.length := by
  have hsingle : ∀ c ∈ (loopback path).toList, Text.IsSingle c := by
    intro c hc
    rw [toList_loopback] at hc
    rcases List.mem_append.mp hc with hc | hc
    · exact Text.isSingle_of_plain (isPlain_of_mem_host c hc)
    · exact h c hc
  rw [Text.columns_of_single hsingle, toList_loopback, List.length_append, length_host]

/-- The endpoint is accepted, and the keys are drawn over it. -/
structure Overdrawn (s : Screen) (a : Area) (endpoint : String) (phase : Phase) : Prop where
  valid : Endpoint.validate endpoint = .ok endpoint
  showsKeys : ShowsKeys (drawHeader s a endpoint phase) a phase
  not_keepsTitle : ¬ KeepsTitle s a endpoint phase

/-- So it is if the keys seem to fit, but the endpoint is shown where they begin. -/
theorem overdrawn_of_columns (hvalid : Endpoint.validate endpoint = .ok endpoint)
    (hmod : needed endpoint .idle % (Area.limit + 1) ≤ 98)
    (hcolumns : 56 ≤ Text.columns endpoint) :
    Overdrawn (blank 100 3) ⟨0, 0, 100, 3⟩ endpoint .idle := by
  have hroom : (hintLine .idle).width + 1 ≤ (Area.mk 0 0 100 3).shrink.width := by
    rw [hintLine_idle_width]
    decide
  have hshows := (showsKeys_drawHeader (covers_blank 100 3) (by decide) (by decide) hroom hmod).1
  refine ⟨hvalid, hshows, fun hkeeps => ?_⟩
  have hfits := le_of_keepsTitle (every_blank 100 3 keyFree_empty) hroom hshows hkeeps
  have htitle : Text.columns endpoint ≤ (titleArea ⟨0, 0, 100, 3⟩ endpoint .idle).width :=
    columns_endpoint_le endpoint .idle
  simp only [hintLine_idle_width, Area.shrink] at hfits
  omega

/-- Beside the endpoint, title and keys need 57 columns and those of the icon. -/
theorem exists_needed_eq (endpoint : String) :
    ∃ w ≤ 3, needed endpoint .idle = Text.width endpoint + 57 + w := by
  refine ⟨_, icon_width_le .idle, ?_⟩
  rw [needed, titleLine_width, hintLine_idle_width]
  omega

/-- With 65528 columns, what an endpoint needs is counted from 0 again. -/
theorem overdrawn_long :
    98 < needed (loopback (List.replicate 65517 'a')) .idle ∧
      Overdrawn (blank 100 3) ⟨0, 0, 100, 3⟩ (loopback (List.replicate 65517 'a')) .idle := by
  have hplain : ∀ c ∈ List.replicate 65517 'a', Text.IsPlain c := by
    intro c hc
    rw [List.eq_of_mem_replicate hc]
    decide
  have hread := Text.readBack_append_of_plain hplain [] nofun
  rw [List.append_nil, List.length_replicate] at hread
  obtain ⟨w, hw, hneeded⟩ := exists_needed_eq (loopback (List.replicate 65517 'a'))
  rw [width_loopback (n := 65517) hread.1 hread.2] at hneeded
  refine ⟨by omega, overdrawn_of_columns (validate_loopback fun c hc => ?_) ?_ ?_⟩
  · rw [List.eq_of_mem_replicate hc]
    decide
  · rw [hneeded, Area.limit]
    omega
  · rw [columns_loopback fun c hc => Text.isSingle_of_plain (hplain c hc), List.length_replicate]
    decide

/-- With 27 ligatures, an endpoint is measured as 38 columns but shown in 65. -/
theorem overdrawn_lamAlef :
    needed (loopback (Text.lamAlef 27)) .idle ≤ 98 ∧
      Overdrawn (blank 100 3) ⟨0, 0, 100, 3⟩ (loopback (Text.lamAlef 27)) .idle := by
  have hread := Text.readBack_lamAlef 27
  obtain ⟨w, hw, hneeded⟩ := exists_needed_eq (loopback (Text.lamAlef 27))
  rw [width_loopback (n := 27) (by rw [hread]) (by simp [hread])] at hneeded
  have hroom : needed (loopback (Text.lamAlef 27)) .idle ≤ 98 := by omega
  refine ⟨hroom, overdrawn_of_columns (validate_loopback fun c hc => ?_)
    (Nat.le_trans (Nat.mod_le _ _) hroom) ?_⟩
  · have hvisible : ∀ c ∈ Text.signsAndAlef, 0x20 < c.toNat := by
      simp [Text.signsAndAlef, Text.signs]
    exact hvisible c (Text.mem_of_mem_lamAlef hc)
  · rw [columns_loopback fun c hc => Text.isSingle_of_signs c (Text.mem_of_mem_lamAlef hc),
      Text.length_lamAlef]
    decide

end View

end Provision
