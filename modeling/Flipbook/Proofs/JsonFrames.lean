import Mathlib
import Flipbook.Json.Decode
import Flipbook.Json.Encode
import Flipbook.Json.Printer
import Flipbook.Proofs.WellFormed

/-!
Frames in JSON and back. What is written for a frame reads back as this frame, whichever of its keys
are then spelled in snake case. `Reads` says this of one value; each record reads if its fields do.
-/
namespace Flipbook

/-- Whether all numbers of a frame are finite. -/
def Frame.IsFinite {ε : Type} (f : Frame Binary64 ε) : Prop :=
  ∀ c ∈ f.commands, ∀ x ∈ c.numbers, x.isFinite = true

namespace Json

/-! ## Written values and their spellings -/

mutual

/-- The value that a text in JSON stands for: a number that is not finite is null there. -/
def shown : Json → Json
  | real x => if x.isFinite then real x else null
  | list xs => list (shownMembers xs)
  | object fs => object (shownFields fs)
  | null => null
  | bool b => bool b
  | integer n => integer n
  | text s => text s

def shownMembers : List Json → List Json
  | [] => []
  | x :: xs => shown x :: shownMembers xs

def shownFields : List (String × Json) → List (String × Json)
  | [] => []
  | (key, x) :: fs => (key, shown x) :: shownFields fs

end

/-- A character inside a key of camel case. -/
def snakeChar (c : Char) : List Char := if c.isUpper then ['_', c.toLower] else [c]

/-- A key of camel case in snake case: a capital letter becomes a small one, after an underscore
unless it comes first. -/
def snakeCase (key : String) : String :=
  match key.toList with
  | [] => ""
  | c :: cs => String.ofList (c.toLower :: cs.flatMap snakeChar)

mutual

/-- A value with some of its keys in snake case. Which ones depends on the steps that lead to a key,
the last step first: keys, and the places of members in lists. -/
def respelled (pick : List String → Bool) (path : List String) : Json → Json
  | list xs => list (respelledMembers pick path 0 xs)
  | object fs => object (respelledFields pick path fs)
  | null => null
  | bool b => bool b
  | integer n => integer n
  | real x => real x
  | text s => text s

def respelledMembers (pick : List String → Bool) (path : List String) (i : Nat) :
    List Json → List Json
  | [] => []
  | x :: xs => respelled pick (toString i :: path) x :: respelledMembers pick path (i + 1) xs

def respelledFields (pick : List String → Bool) (path : List String) :
    List (String × Json) → List (String × Json)
  | [] => []
  | (key, x) :: fs => (if pick (key :: path) then snakeCase key else key,
      respelled pick (key :: path) x) :: respelledFields pick path fs

end

mutual

/-- A value and what its text stands for have the same text. -/
theorem print_shown (indent : Indent) (level : Nat) (j : Json) :
    print indent level (shown j) = print indent level j := by
  cases j with
  | real x =>
    rw [shown]
    cases x with
    | finite s x => rfl
    | infinite negative => cases negative <;> rfl
    | nan => rfl
  | list xs => rw [shown, print, print, printMembers_shown]
  | object fs => rw [shown, print, print, printFields_shown]
  | null => rfl
  | bool b => rfl
  | integer n => rfl
  | text s => rfl

theorem printMembers_shown (indent : Indent) (level : Nat) (xs : List Json) :
    printMembers indent level (shownMembers xs) = printMembers indent level xs := by
  cases xs with
  | nil => rfl
  | cons x xs =>
    rw [shownMembers, printMembers, printMembers, print_shown, printMembers_shown]

theorem printFields_shown (indent : Indent) (level : Nat) (fs : List (String × Json)) :
    printFields indent level (shownFields fs) = printFields indent level fs := by
  cases fs with
  | nil => rfl
  | cons f fs =>
    rw [shownFields, printFields, printFields, print_shown, printFields_shown]

end

mutual

/-- Without a key picked nothing changes. -/
theorem respelled_none (path : List String) (j : Json) :
    respelled (fun _ => false) path j = j := by
  cases j with
  | list xs => rw [respelled, respelledMembers_none]
  | object fs => rw [respelled, respelledFields_none]
  | _ => rfl

theorem respelledMembers_none (path : List String) (i : Nat) (xs : List Json) :
    respelledMembers (fun _ => false) path i xs = xs := by
  cases xs with
  | nil => rfl
  | cons x xs => rw [respelledMembers, respelled_none, respelledMembers_none]

theorem respelledFields_none (path : List String) (fs : List (String × Json)) :
    respelledFields (fun _ => false) path fs = fs := by
  cases fs with
  | nil => rfl
  | cons f fs => rw [respelledFields, respelled_none, respelledFields_none]; rfl

end

/-! ## Values that read back -/

variable {τ : Type} {decode : Decoder τ} {v : Json} {x : τ} {f : τ → Json} {xs : List τ}
  {pick : List String → Bool} {path : List String}

/-- Whether a value, as it is written and with any of its keys in snake case, reads as `x`. -/
def Reads (decode : Decoder τ) (v : Json) (x : τ) : Prop :=
  ∀ pick path, decode (respelled pick path (shown v)) = .ok x

theorem reads_text (s : String) : Reads toText (.text s) s := fun _ _ => rfl

theorem reads_bool (b : Bool) : Reads toBool (.bool b) b := fun _ _ => rfl

theorem reads_integer (n : Int) : Reads toInteger (.integer n) n := fun _ _ => rfl

theorem reads_real {y : Binary64} (h : y.isFinite = true) : Reads toReal (.real y) y := by
  intro pick path
  rw [shown, if_pos h]
  rfl

theorem toMembers_respelled (h : ∀ y ∈ xs, Reads decode (f y) y) (i : Nat) :
    toMembers decode i (respelledMembers pick path i (shownMembers (xs.map f))) = .ok xs := by
  induction xs generalizing i with
  | nil => rfl
  | cons y ys ih =>
    obtain ⟨hy, hys⟩ := List.forall_mem_cons.mp h
    rw [List.map_cons, shownMembers, respelledMembers, toMembers, hy, ih hys]
    rfl

theorem reads_list (h : ∀ y ∈ xs, Reads decode (f y) y) :
    Reads (toList decode) (ofList f xs) xs := by
  intro pick path
  rw [ofList, shown, respelled, toList, toMembers_respelled h]

theorem reads_texts (ts : List String) : Reads (toList toText) (ofTexts ts) ts :=
  reads_list fun t _ => reads_text t

theorem reads_textTable (rows : List (List String)) :
    Reads (toList (toList toText)) (ofTextTable rows) rows :=
  reads_list fun row _ => reads_texts row

theorem toOption_of_ne {j : Json} (h : j ≠ .null) : toOption decode j = some <$> decode j := by
  cases j with
  | null => exact absurd rfl h
  | _ => rfl

/-- An optional value reads back if null is no value. -/
theorem reads_option {y : Option τ} (hnull : ∀ z, decode .null ≠ .ok z)
    (h : ∀ z ∈ y, Reads decode (f z) z) : Reads (toOption decode) (ofOption f y) y := by
  intro pick path
  cases y with
  | none => rfl
  | some z =>
    have hread := h z rfl pick path
    have hne : respelled pick path (shown (f z)) ≠ .null := by
      intro heq
      rw [heq] at hread
      exact hnull z hread
    have hsome : ofOption f (some z) = f z := rfl
    rw [hsome, toOption_of_ne hne, hread]
    rfl

/-! ## Fields -/

variable {fs : List (Key × Json)} {gs : Fields} {k : Key} {ks : List Key}

/-- Whether no spelling of one key is a spelling of another. -/
def Key.Apart (a b : Key) : Prop :=
  a.written ≠ b.written ∧ a.written ≠ b.name ∧ a.name ≠ b.written ∧ a.name ≠ b.name

instance (a b : Key) : Decidable (a.Apart b) := inferInstanceAs (Decidable (_ ∧ _))

/-- Keys that can be those of one object: they are apart, and each has its written spelling in snake
case as its name. -/
def KeysFormed (ks : List Key) : Prop :=
  ks.Pairwise Key.Apart ∧ ∀ k ∈ ks, snakeCase k.written = k.name

instance (ks : List Key) : Decidable (KeysFormed ks) := inferInstanceAs (Decidable (_ ∧ _))

/-- Whether a field is found in an object, with some of the keys of its value in snake case. -/
def Found (gs : Fields) (k : Key) (v : Json) : Prop :=
  ∃ spelling pick path, find? gs k = some (spelling, respelled pick path (shown v))

theorem Found.required (h : Found gs k v) (hv : Reads decode v x) :
    required gs k decode = .ok x := by
  obtain ⟨spelling, pick, path, hfind⟩ := h
  rw [Json.required, hfind]
  dsimp only
  rw [hv]
  rfl

theorem Found.optional (h : Found gs k v) (hv : Reads decode v x) (default : τ) :
    optional gs k default decode = .ok x := by
  obtain ⟨spelling, pick, path, hfind⟩ := h
  rw [Json.optional, hfind]
  dsimp only
  rw [hv]
  rfl

/-- A field with one spelling is found under it. -/
theorem Found.lookup (h : Found gs k v) (hname : k.name = k.written) :
    ∃ pick path, gs.lookup k.written = some (respelled pick path (shown v)) := by
  obtain ⟨spelling, pick, path, hfind⟩ := h
  refine ⟨pick, path, ?_⟩
  rw [find?, hname] at hfind
  cases hlookup : gs.lookup k.written with
  | none => simp [hlookup] at hfind
  | some w =>
    simp only [hlookup, Option.some.injEq, Prod.mk.injEq] at hfind
    rw [hfind.2]

theorem find?_cons_of_ne {g : String × Json} (hw : g.1 ≠ k.written) (hn : g.1 ≠ k.name) :
    find? (g :: gs) k = find? gs k := by
  obtain ⟨s, w⟩ := g
  rw [find?, find?, List.lookup_cons, List.lookup_cons, beq_false_of_ne hw.symm,
    beq_false_of_ne hn.symm]

/-- The fields of an object, with some of their keys in snake case. -/
def spelledFields (pick : List String → Bool) (path : List String) (fs : List (Key × Json)) :
    Fields :=
  respelledFields pick path (shownFields (fs.map fun (k, v) => (k.written, v)))

theorem spelledFields_cons (k : Key) (v : Json) (fs : List (Key × Json)) :
    spelledFields pick path ((k, v) :: fs) =
      (if pick (k.written :: path) then snakeCase k.written else k.written,
        respelled pick (k.written :: path) (shown v)) :: spelledFields pick path fs := rfl

/-- A key that is apart from all keys of an object is not found there. -/
theorem lookup_spelledFields (hsnake : ∀ f ∈ fs, snakeCase f.1.written = f.1.name)
    {s : String} (hs : ∀ f ∈ fs, s ≠ f.1.written ∧ s ≠ f.1.name) :
    (spelledFields pick path fs).lookup s = none := by
  induction fs with
  | nil => rfl
  | cons f fs ih =>
    obtain ⟨k, v⟩ := f
    obtain ⟨hname, hnames⟩ := List.forall_mem_cons.mp hsnake
    obtain ⟨⟨hkw, hkn⟩, hlater⟩ := List.forall_mem_cons.mp hs
    rw [spelledFields_cons, List.lookup_cons, hname]
    have hne : (s == if pick (k.written :: path) then k.name else k.written) = false := by
      split
      · exact beq_false_of_ne hkn
      · exact beq_false_of_ne hkw
    rw [hne]
    exact ih hnames hlater

theorem found_spelledFields (hks : KeysFormed (fs.map Prod.fst)) :
    ∀ p ∈ fs, Found (spelledFields pick path fs) p.1 p.2 := by
  induction fs with
  | nil => simp
  | cons f fs ih =>
    obtain ⟨k, v⟩ := f
    obtain ⟨hpairwise, hsnake⟩ := hks
    rw [List.map_cons, List.pairwise_cons] at hpairwise
    rw [List.map_cons, List.forall_mem_cons] at hsnake
    obtain ⟨hfirst, hapart⟩ := hpairwise
    have hsnakes : ∀ p ∈ fs, snakeCase p.1.written = p.1.name := fun p hp =>
      hsnake.2 p.1 (List.mem_map_of_mem hp)
    have hapart' : ∀ p ∈ fs, k.Apart p.1 := fun p hp => hfirst p.1 (List.mem_map_of_mem hp)
    refine List.forall_mem_cons.mpr ⟨?_, fun p hp => ?_⟩
    · refine ⟨if pick (k.written :: path) then k.name else k.written, pick, k.written :: path, ?_⟩
      have hnone : (spelledFields pick path fs).lookup k.written = none :=
        lookup_spelledFields hsnakes fun p hp => ⟨(hapart' p hp).1, (hapart' p hp).2.1⟩
      rw [spelledFields_cons, hsnake.1, find?, List.lookup_cons, List.lookup_cons, hnone]
      -- the written spelling goes first, so that it must not stand at a later field
      by_cases heq : k.written = k.name
      · simp [heq]
      · by_cases hp : pick (k.written :: path)
        · simp [hp, beq_false_of_ne heq]
        · simp [hp]
    · obtain ⟨hww, hwn, hnw, hnn⟩ := hapart' p hp
      rw [spelledFields_cons, hsnake.1, Found, find?_cons_of_ne]
      · exact ih ⟨hapart, hsnake.2⟩ p hp
      · dsimp only
        split
        · exact hnw
        · exact hww
      · dsimp only
        split
        · exact hnn
        · exact hwn

/-- What is written for an object has all its fields. -/
theorem respelled_ofFields (hks : KeysFormed ks) (hfs : fs.map Prod.fst = ks)
    (pick : List String → Bool) (path : List String) :
    ∃ gs, respelled pick path (shown (ofFields fs)) = .object gs ∧ ∀ p ∈ fs, Found gs p.1 p.2 :=
  ⟨spelledFields pick path fs, rfl, found_spelledFields (hfs ▸ hks)⟩

/-- An object reads back if it does with every way of spelling its fields. -/
theorem reads_fields {read : Fields → Checked τ} (hks : KeysFormed ks) (hfs : fs.map Prod.fst = ks)
    (h : ∀ gs, (∀ p ∈ fs, Found gs p.1 p.2) → read gs = .ok x) :
    Reads (toFields read) (ofFields fs) x := by
  intro pick path
  obtain ⟨gs, hgs, hfound⟩ := respelled_ofFields hks hfs pick path
  rw [hgs]
  exact h gs hfound

/-! ## Records -/

/-- The objects of a frame. -/
inductive Record where
  | rect | point | polyline | circle | circleGroup | segment | lineGroup | polygon | polygonGroup
  | bar | command (kind : Kind) | frame

/-- The keys of an object, in the order in which they are written. -/
def Record.keys : Record → List Key
  | rect => [Key.left, Key.top, Key.right, Key.bottom]
  | point => [Key.x, Key.y]
  | polyline => [Key.color, Key.points]
  | circle => [Key.x, Key.y, Key.r]
  | circleGroup => [Key.lineColor, Key.fillColor, Key.circles]
  | segment => [Key.ax, Key.ay, Key.bx, Key.bY]
  | lineGroup => [Key.color, Key.lineWidth, Key.lines]
  | polygon => [Key.points]
  | polygonGroup => [Key.lineColor, Key.fillColor, Key.polygon]
  | bar => [Key.label, Key.value]
  | command .canvas => [Key.type, Key.height, Key.width]
  | command .grid =>
    [Key.type, Key.height, Key.width, Key.borderColor, Key.textColor, Key.defaultColor,
      Key.gridColors, Key.gridTexts, Key.gridLines, Key.wallVertical, Key.wallHorizontal,
      Key.bounds]
  | command .plane =>
    [Key.type, Key.height, Key.width, Key.circleGroups, Key.lineGroups, Key.polygonGroups,
      Key.bounds]
  | command .barGraph => [Key.type, Key.fillColor, Key.yMin, Key.yMax, Key.items]
  | command .textArea => [Key.type, Key.text]
  | command .score => [Key.type, Key.score]
  | command .debug => [Key.type]
  | frame => [Key.commands, Key.rawText, Key.showDebug, Key.errors]

theorem keysFormed (r : Record) : KeysFormed r.keys := by
  cases r with
  | command kind => cases kind <;> decide +kernel
  | _ => decide +kernel

theorem reads_rect {r : Rect Binary64} (h : ∀ y ∈ r.sides, y.isFinite = true) :
    Reads toRect (ofRect r) r := by
  simp only [Rect.sides, List.forall_mem_cons] at h
  refine reads_fields (keysFormed .rect) rfl fun gs hgs => ?_
  simp only [List.forall_mem_cons] at hgs
  obtain ⟨hleft, htop, hright, hbottom, -⟩ := hgs
  rw [hleft.required (reads_real h.1), htop.required (reads_real h.2.1),
    hright.required (reads_real h.2.2.1), hbottom.required (reads_real h.2.2.2.1)]
  rfl

theorem reads_bounds {bounds : Option (Rect Binary64)}
    (h : ∀ y ∈ bounds.toList.flatMap Rect.sides, y.isFinite = true) :
    Reads (toOption toRect) (ofOption ofRect bounds) bounds := by
  refine reads_option (fun r hr => by cases hr) fun r hr => reads_rect fun y hy => ?_
  exact h y (List.mem_flatMap.mpr ⟨r, Option.mem_toList.mpr hr, hy⟩)

theorem reads_point {p : Point Binary64} (h : ∀ y ∈ p.numbers, y.isFinite = true) :
    Reads toPoint (ofPoint p) p := by
  simp only [Point.numbers, List.forall_mem_cons] at h
  refine reads_fields (keysFormed .point) rfl fun gs hgs => ?_
  simp only [List.forall_mem_cons] at hgs
  obtain ⟨hx, hy, -⟩ := hgs
  rw [hx.required (reads_real h.1), hy.required (reads_real h.2.1)]
  rfl

/-- Members read back if all their numbers are finite. -/
theorem reads_members {numbers : τ → List Binary64}
    (hread : ∀ y, (∀ z ∈ numbers y, z.isFinite = true) → Reads decode (f y) y)
    (h : ∀ z ∈ xs.flatMap numbers, z.isFinite = true) : Reads (toList decode) (ofList f xs) xs :=
  reads_list fun y hy => hread y fun z hz => h z (List.mem_flatMap.mpr ⟨y, hy, hz⟩)

theorem reads_polyline {l : Polyline Binary64}
    (h : ∀ y ∈ l.points.flatMap Point.numbers, y.isFinite = true) :
    Reads toPolyline (ofPolyline l) l := by
  refine reads_fields (keysFormed .polyline) rfl fun gs hgs => ?_
  simp only [List.forall_mem_cons] at hgs
  obtain ⟨hcolor, hpoints, -⟩ := hgs
  rw [hcolor.required (reads_text _), hpoints.optional (reads_members (fun _ => reads_point) h)]
  rfl

theorem reads_circle {c : Circle Binary64} (h : ∀ y ∈ c.numbers, y.isFinite = true) :
    Reads toCircle (ofCircle c) c := by
  simp only [Circle.numbers, List.forall_mem_cons] at h
  refine reads_fields (keysFormed .circle) rfl fun gs hgs => ?_
  simp only [List.forall_mem_cons] at hgs
  obtain ⟨hx, hy, hr, -⟩ := hgs
  rw [hx.required (reads_real h.1), hy.required (reads_real h.2.1),
    hr.required (reads_real h.2.2.1)]
  rfl

theorem reads_circleGroup {g : CircleGroup Binary64}
    (h : ∀ y ∈ g.circles.flatMap Circle.numbers, y.isFinite = true) :
    Reads toCircleGroup (ofCircleGroup g) g := by
  refine reads_fields (keysFormed .circleGroup) rfl fun gs hgs => ?_
  simp only [List.forall_mem_cons] at hgs
  obtain ⟨hline, hfill, hcircles, -⟩ := hgs
  rw [hline.required (reads_text _), hfill.required (reads_text _),
    hcircles.optional (reads_members (fun _ => reads_circle) h)]
  rfl

theorem reads_segment {s : Segment Binary64} (h : ∀ y ∈ s.numbers, y.isFinite = true) :
    Reads toSegment (ofSegment s) s := by
  simp only [Segment.numbers, List.forall_mem_cons] at h
  refine reads_fields (keysFormed .segment) rfl fun gs hgs => ?_
  simp only [List.forall_mem_cons] at hgs
  obtain ⟨hax, hay, hbx, hby, -⟩ := hgs
  rw [hax.required (reads_real h.1), hay.required (reads_real h.2.1),
    hbx.required (reads_real h.2.2.1), hby.required (reads_real h.2.2.2.1)]
  rfl

theorem reads_lineGroup {g : LineGroup Binary64}
    (h : ∀ y ∈ g.width :: g.segments.flatMap Segment.numbers, y.isFinite = true) :
    Reads toLineGroup (ofLineGroup g) g := by
  obtain ⟨hfinite, hnumbers⟩ := List.forall_mem_cons.mp h
  refine reads_fields (keysFormed .lineGroup) rfl fun gs hgs => ?_
  simp only [List.forall_mem_cons] at hgs
  obtain ⟨hcolor, hwidth, hlines, -⟩ := hgs
  rw [hcolor.required (reads_text _), hwidth.optional (reads_real hfinite),
    hlines.optional (reads_members (fun _ => reads_segment) hnumbers)]
  rfl

theorem reads_polygon {vertices : List (Point Binary64)}
    (h : ∀ y ∈ vertices.flatMap Point.numbers, y.isFinite = true) :
    Reads toPolygon (ofFields [(Key.points, ofList ofPoint vertices)]) vertices := by
  refine reads_fields (keysFormed .polygon) rfl fun gs hgs => ?_
  exact (hgs _ List.mem_cons_self).optional (reads_members (fun _ => reads_point) h) []

theorem reads_polygonGroup {g : PolygonGroup Binary64}
    (h : ∀ y ∈ g.vertices.flatMap Point.numbers, y.isFinite = true) :
    Reads toPolygonGroup (ofPolygonGroup g) g := by
  refine reads_fields (keysFormed .polygonGroup) rfl fun gs hgs => ?_
  simp only [List.forall_mem_cons] at hgs
  obtain ⟨hline, hfill, hpolygon, -⟩ := hgs
  rw [hline.required (reads_text _), hfill.required (reads_text _),
    hpolygon.optional (reads_polygon h)]
  rfl

theorem reads_bar {b : Bar Binary64} (h : b.value.isFinite = true) :
    Reads toBar (ofBar b) b := by
  refine reads_fields (keysFormed .bar) rfl fun gs hgs => ?_
  simp only [List.forall_mem_cons] at hgs
  obtain ⟨hlabel, hvalue, -⟩ := hgs
  rw [hlabel.required (reads_text _), hvalue.required (reads_real h)]
  rfl

/-! ## Commands and frames -/

theorem map_fst_command (c : Command Binary64) :
    ((Key.type, Json.text c.kind.keyword) :: commandFields c).map Prod.fst =
      (Record.command c.kind).keys := by
  cases c <;> rfl

theorem toCommandOf_found {c : Command Binary64} (h : ∀ y ∈ c.numbers, y.isFinite = true)
    (hgs : ∀ p ∈ commandFields c, Found gs p.1 p.2) : toCommandOf c.kind gs = .ok c := by
  cases c with
  | canvas c =>
    simp only [Command.numbers, List.forall_mem_cons] at h
    simp only [commandFields, List.forall_mem_cons] at hgs
    obtain ⟨hheight, hwidth, -⟩ := hgs
    rw [Command.kind, toCommandOf, toCanvas, hheight.required (reads_real h.1),
      hwidth.required (reads_real h.2.1)]
    rfl
  | grid g =>
    simp only [Command.numbers, List.forall_mem_append] at h
    simp only [commandFields, List.forall_mem_cons] at hgs
    obtain ⟨hheight, hwidth, hborder, htext, hdefault, hcolors, htexts, hlines, hvertical,
      hhorizontal, hbounds, -⟩ := hgs
    rw [Command.kind, toCommandOf, toGrid, hheight.required (reads_integer _),
      hwidth.required (reads_integer _), hborder.required (reads_text _),
      htext.required (reads_text _), hdefault.required (reads_text _),
      hcolors.optional (reads_textTable _), htexts.optional (reads_textTable _),
      hlines.optional (reads_members (fun _ => reads_polyline) h.1),
      hvertical.optional (reads_texts _), hhorizontal.optional (reads_texts _),
      hbounds.optional (reads_bounds h.2)]
    rfl
  | plane p =>
    simp only [Command.numbers, List.forall_mem_append, List.forall_mem_cons] at h
    simp only [commandFields, List.forall_mem_cons] at hgs
    obtain ⟨hheight, hwidth, hcircles, hlines, hpolygons, hbounds, -⟩ := hgs
    obtain ⟨⟨⟨⟨⟨hh, hw, -⟩, hc⟩, hl⟩, hp⟩, hb⟩ := h
    rw [Command.kind, toCommandOf, toPlane, hheight.required (reads_real hh),
      hwidth.required (reads_real hw),
      hcircles.optional (reads_members (fun _ => reads_circleGroup) hc),
      hlines.optional (reads_members (fun _ => reads_lineGroup) hl),
      hpolygons.optional (reads_members (fun _ => reads_polygonGroup) hp),
      hbounds.optional (reads_bounds hb)]
    rfl
  | barGraph b =>
    simp only [Command.numbers, List.forall_mem_cons] at h
    simp only [commandFields, List.forall_mem_cons] at hgs
    obtain ⟨hfill, hlow, hhigh, hitems, -⟩ := hgs
    have hbars : Reads (toList toBar) (ofList ofBar b.bars) b.bars :=
      reads_list fun bar hbar => reads_bar (h.2.2 _ (List.mem_map_of_mem hbar))
    rw [Command.kind, toCommandOf, toBarGraph, hfill.required (reads_text _),
      hlow.required (reads_real h.1), hhigh.required (reads_real h.2.1), hitems.optional hbars]
    rfl
  | textArea s =>
    rw [Command.kind, toCommandOf, (hgs _ List.mem_cons_self).optional (reads_text s)]
    rfl
  | score s =>
    rw [Command.kind, toCommandOf, (hgs _ List.mem_cons_self).optional (reads_text s)]
    rfl
  | debug => rfl

theorem toKind?_keyword (kind : Kind) : toKind? (.text kind.keyword) = some kind := by
  cases kind <;> simp [toKind?, Kind.all, Kind.keyword]

theorem toCommand_object {tag : Json} {kind : Kind} {c : Command Binary64}
    (htag : gs.lookup Key.type.written = some tag) (hkind : toKind? tag = some kind)
    (hfields : toCommandOf kind gs = .ok c) : toCommand (.object gs) = .ok c := by
  simp only [toCommand, htag, hkind, hfields, Checked.within]

theorem reads_command {c : Command Binary64} (h : ∀ y ∈ c.numbers, y.isFinite = true) :
    Reads toCommand (ofCommand c) c := by
  intro pick path
  obtain ⟨gs, hgs, hfound⟩ :=
    respelled_ofFields (keysFormed (.command c.kind)) (map_fst_command c) pick path
  obtain ⟨htype, hfields⟩ := List.forall_mem_cons.mp hfound
  obtain ⟨pick', path', htag⟩ := htype.lookup rfl
  rw [ofCommand, hgs]
  exact toCommand_object htag (toKind?_keyword c.kind) (toCommandOf_found h hfields)

theorem reads_frame {fr : Frame Binary64 String} (h : fr.IsFinite) :
    Reads toFrame (ofFrame fr) fr := by
  refine reads_fields (keysFormed .frame) rfl fun gs hgs => ?_
  simp only [List.forall_mem_cons] at hgs
  obtain ⟨hcommands, htext, hdebug, herrors, -⟩ := hgs
  rw [hcommands.optional (reads_list fun c hc => reads_command (h c hc)),
    htext.optional (reads_text _), hdebug.optional (reads_bool _),
    herrors.optional (reads_texts _)]
  rfl

theorem isFinite_of_mem_parse {cfg : Config Binary64} {text m : String}
    {fr : Frame Binary64 Notice} (h : fr ∈ (Script.parse cfg text).frames m) :
    fr.inWords.IsFinite := fun c hc =>
  (Script.wellFormed_of_formed ((Script.formed_of_mem_parse h).2.commands c hc)).finite

/-- The JSON form of a frame loses nothing. If all its numbers are finite, as they are in every
frame of a script, the value that is written for it reads back as the frame, and so it does with
any of its keys, at any places, in snake case. -/
theorem frame_reads_back :
    (∀ fr : Frame Binary64 String, fr.IsFinite →
      (∀ indent, (shown (ofFrame fr)).render indent = (ofFrame fr).render indent) ∧
      toFrame (shown (ofFrame fr)) = .ok fr ∧
      ∀ pick, toFrame (respelled pick [] (shown (ofFrame fr))) = .ok fr) ∧
    ∀ cfg text m, ∀ fr ∈ (Script.parse cfg text).frames m, fr.inWords.IsFinite := by
  refine ⟨fun fr h => ⟨fun indent => print_shown indent 0 (ofFrame fr), ?_, ?_⟩, ?_⟩
  · have hread := reads_frame h (fun _ => false) []
    rwa [respelled_none] at hread
  · exact fun pick => reads_frame h pick []
  · exact fun cfg text m fr h => isFinite_of_mem_parse h

/-- A frame with a command of each spatial kind, groups and optional bounds among them. -/
def variedFrame : Frame Binary64 String where
  commands := [
    .grid { height := 1, width := 1, borderColor := "red", textColor := "red"
            defaultColor := "blue", colors := [["blue"]], polylines := [⟨"red", [⟨0, 0.5⟩]⟩]
            bounds := some ⟨0, 0, 10.0, 10.0⟩ },
    .plane { height := 1.0, width := 2.0, lineGroups := [⟨"red", 3.0, [⟨⟨0, 0⟩, ⟨1.0, 1.0⟩⟩]⟩]
             polygonGroups := [⟨"red", "blue", [⟨0, 1.0⟩]⟩] }]
  rawText := "$v GRID"
  errors := ["Line 1: none"]

theorem frame_reads_back_varied :
    variedFrame.IsFinite ∧
      toFrame (respelled (fun _ => true) [] (shown (ofFrame variedFrame))) = .ok variedFrame := by
  have h : variedFrame.IsFinite := by
    unfold Frame.IsFinite
    decide +kernel
  exact ⟨h, (frame_reads_back.1 variedFrame h).2.2 fun _ => true⟩

end Json

end Flipbook
