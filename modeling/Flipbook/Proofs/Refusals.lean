import Mathlib
import Flipbook.Proofs.Commands
import Flipbook.Proofs.Responses
import Flipbook.Proofs.WellFormed
import Flipbook.Script.Context

/-!
Headers that are refused. A header announces a size, colours and bounds, or it is refused with a
single report and nothing else changes. Once it is accepted its command is drawn as announced,
whatever the lines after it are.
-/
namespace Flipbook.Script

open Text

variable {maxCells line : Int} {text key word l : String} {params rest : List String}
  {bounds : Option (Rect Binary64)} {r : Routed} {k : Kind} {call : Call}

/-! ## What a header says -/

/-- What the four headers announce. -/
inductive Header where
  | grid (h : GridHeader)
  | plane (h : PlaneHeader)
  | barGraph (h : BarGraphHeader)
  | canvas (c : Canvas Binary64)

def Header.kind : Header → Kind
  | grid _ => .grid
  | plane _ => .plane
  | barGraph _ => .barGraph
  | canvas _ => .canvas

/-- Whether a command has the sizes, the colours and the bounds of a header. -/
def Header.Describes : Header → Command Binary64 → Prop
  | .grid h, .grid g => g.height = h.height ∧ g.width = h.width ∧ g.borderColor = h.borderColor ∧
    g.textColor = h.textColor ∧ g.defaultColor = h.defaultColor ∧ g.bounds = h.bounds
  | .plane h, .plane p => p.height = h.height ∧ p.width = h.width ∧ p.bounds = h.bounds
  | .barGraph h, .barGraph b => b.fillColor = h.fillColor ∧ b.low = h.low ∧ b.high = h.high
  | .canvas c, .canvas d => d = c
  | _, _ => False

/-- A keyword, bounds that may follow it at once, and the words after them. -/
inductive Announces (key text : String) : Option (Rect Binary64) → List String → Prop
  | plain (rest : List Char) (h : text.toList = key.toList ++ rest)
    (hparen : rest.head? ≠ some '(') : Announces key text none (words (String.ofList rest))
  | bounded (inner rest : List Char) (b : Rect Binary64)
    (h : text.toList = key.toList ++ '(' :: (inner ++ ')' :: rest)) (hinner : ')' ∉ inner)
    (hsides : (splitAt ',' (String.ofList inner)).map (fun side => Numeral.readFinite? (trim side)) =
      b.sides.map some) : Announces key text (some b) (words (String.ofList rest))

/-- The headers that are accepted. -/
inductive IsHeader (maxCells : Int) (text : String) : Header → Prop
  | grid (h : GridHeader) (height width : String) (hkey : keyword text = "GRID")
    (hparts : Announces "GRID" text h.bounds
      [height, width, h.borderColor, h.textColor, h.defaultColor])
    (hheight : Numeral.readInt? height = some (h.height : Int))
    (hwidth : Numeral.readInt? width = some (h.width : Int))
    (hpos : 0 < h.height ∧ 0 < h.width) (hcells : (h.height : Int) * h.width ≤ maxCells) :
    IsHeader maxCells text (.grid h)
  | plane (h : PlaneHeader) (height width : String) (hkey : keyword text = "2D_PLANE")
    (hparts : Announces "2D_PLANE" text h.bounds [height, width])
    (hheight : Numeral.readFinite? height = some h.height)
    (hwidth : Numeral.readFinite? width = some h.width) (hpos : 0 < h.height ∧ 0 < h.width) :
    IsHeader maxCells text (.plane h)
  | barGraph (h : BarGraphHeader) (word low high : String) (hkey : keyword text = "BAR_GRAPH")
    (hwords : words text = [word, h.fillColor, low, high])
    (hlow : Numeral.readFinite? low = some h.low) (hhigh : Numeral.readFinite? high = some h.high)
    (hlt : h.low < h.high) : IsHeader maxCells text (.barGraph h)
  | canvas (c : Canvas Binary64) (word height width : String) (hkey : keyword text = "CANVAS")
    (hwords : words text = [word, height, width])
    (hheight : Numeral.readFinite? height = some c.height)
    (hwidth : Numeral.readFinite? width = some c.width) (hpos : 0 < c.height ∧ 0 < c.width) :
    IsHeader maxCells text (.canvas c)

theorem IsHeader.keyword_eq {h : Header} (hh : IsHeader maxCells text h) :
    keyword text = h.kind.keyword := by
  cases hh with
  | grid _ _ _ hkey => exact hkey
  | plane _ _ _ hkey => exact hkey
  | barGraph _ _ _ _ hkey => exact hkey
  | canvas _ _ _ _ hkey => exact hkey

theorem keyword_injective {k k' : Kind} (h : k.keyword = k'.keyword) : k = k' := by
  cases k <;> cases k' <;> first | rfl | exact absurd h (by decide)

/-! ## The parts of a header -/

theorem readBounds?_eq_some_iff {inner : String} {b : Rect Binary64} :
    readBounds? inner = some b ↔
      (splitAt ',' inner).map (fun side => Numeral.readFinite? (trim side)) =
        b.sides.map some := by
  unfold readBounds?
  constructor
  · intro h
    split at h
    next left top right bottom hsides =>
      obtain rfl := Option.some.inj h
      exact hsides
    next => cases h
  · intro h
    rw [h]
    rfl

/-- A header splits into what it announces, or it is faulty. -/
theorem splitHeader_eq_ok_iff (hkey : key.toList <+: text.toList) :
    splitHeader text key = .ok (bounds, params) ↔ Announces key text bounds params := by
  obtain ⟨cs, hcs⟩ := hkey
  unfold splitHeader
  rw [← hcs, afterKeyword_append]
  constructor
  · intro h
    split at h
    next ds =>
      dsimp only at h
      split at h
      next => cases h
      next p rest hdrop =>
        obtain rfl : p = ')' := by
          have hhead := List.head?_dropWhile_not (· != ')') ds
          rw [hdrop] at hhead
          simpa using hhead
        have hsplit := List.takeWhile_append_dropWhile (p := (· != ')')) (l := ds)
        rw [hdrop] at hsplit
        split at h
        next b hb =>
          cases h
          refine .bounded _ rest b (by rw [← hcs, hsplit]) ?_ (readBounds?_eq_some_iff.mp hb)
          intro hparen
          simpa using List.mem_takeWhile_imp hparen
        next => cases h
    next hparen =>
      cases h
      refine .plain cs hcs.symm ?_
      intro hhead
      obtain ⟨ds, rfl⟩ := List.head?_eq_some_iff.mp hhead
      exact hparen ds rfl
  · intro h
    cases h with
    | plain rest htext hparen =>
      obtain rfl : cs = rest := List.append_cancel_left (hcs.trans htext)
      split
      next ds => exact absurd rfl hparen
      next => rfl
    | bounded inner rest b htext hinner hsides =>
      obtain rfl : cs = _ := List.append_cancel_left (hcs.trans htext)
      obtain ⟨htake, hdrop⟩ := span_append_mark hinner rest
      simp only [htake, hdrop, readBounds?_eq_some_iff.mpr hsides]

/-! ## Routed command texts -/

/-- The first word of a text that starts with no blank is its beginning. -/
theorem prefix_of_words (hhead : ∀ c ∈ text.toList.head?, isBlank c = false)
    (hwords : words text = word :: params) : word.toList <+: text.toList := by
  have hne : text.toList ≠ [] := by
    intro hnil
    rw [String.toList_eq_nil_iff.mp hnil, words_empty] at hwords
    cases hwords
  obtain ⟨w, rest, hsplit, -, hfirst⟩ := exists_first_word hne hhead
  rw [String.ofList_toList, hwords] at hfirst
  obtain ⟨rfl, -⟩ := List.cons.inj hfirst
  rw [hsplit, String.toList_ofList]
  exact List.prefix_append w rest

theorem head?_remainder (hr : route l = some r) :
    ∀ c ∈ r.remainder.toList.head?, isBlank c = false := by
  unfold route routeChars at hr
  split at hr
  next cs =>
    dsimp only at hr
    split at hr
    next => cases hr
    next =>
      split at hr
      next => cases hr
      next =>
        obtain rfl := Option.some.inj hr
        simpa using head?_trimBoth isBlank _
  next =>
    obtain rfl := Option.some.inj hr
    simpa using head?_trimBoth isBlank _
  next => cases hr

/-- A routed command text with a keyword starts with it, and words follow. -/
theorem exists_words (hr : route l = some r) (hkey : keyword r.remainder = key) (hne : key ≠ "") :
    key.toList <+: r.remainder.toList ∧
      ∃ word params, words r.remainder = word :: params ∧ beforeParen word = key := by
  cases hwords : words r.remainder with
  | nil =>
    rw [keyword, hwords] at hkey
    exact absurd hkey.symm hne
  | cons word params =>
    rw [keyword_eq hwords] at hkey
    refine ⟨?_, word, params, rfl, hkey⟩
    rw [← hkey, beforeParen, String.toList_ofList]
    exact (List.takeWhile_prefix _).trans (prefix_of_words (head?_remainder hr) hwords)

/-! ## Headers that are accepted -/

theorem readGridHeader_eq_ok_iff (hkey : keyword text = "GRID")
    (hstart : "GRID".toList <+: text.toList) {h : GridHeader} :
    readGridHeader maxCells text = .ok h ↔ IsHeader maxCells text (.grid h) := by
  have hsplit (bounds : Option (Rect Binary64)) (params : List String) :
      splitHeader text Kind.grid.keyword = .ok (bounds, params) ↔
        Announces "GRID" text bounds params := splitHeader_eq_ok_iff hstart
  unfold readGridHeader
  constructor
  · intro hread
    cases hparts : splitHeader text Kind.grid.keyword with
    | error fault => simp [hparts, bind, Except.bind] at hread
    | ok parts =>
      obtain ⟨bounds, params⟩ := parts
      simp only [hparts, bind, Except.bind] at hread
      split at hread
      next height width borderColor textColor defaultColor =>
        split at hread
        next a b ha hb =>
          split at hread
          next => cases hread
          next hsign =>
            split at hread
            next => cases hread
            next hcells =>
              cases hread
              simp only [Bool.or_eq_true, decide_eq_true_eq, not_or, not_le] at hsign
              have hheight : (a.toNat : Int) = a := Int.toNat_of_nonneg hsign.1.le
              have hwidth : (b.toNat : Int) = b := Int.toNat_of_nonneg hsign.2.le
              refine .grid _ height width hkey ((hsplit _ _).mp hparts) ?_ ?_ ?_ ?_
              · rw [ha, hheight]
              · rw [hb, hwidth]
              · dsimp only
                omega
              · rw [hheight, hwidth]
                exact not_lt.mp hcells
        next => cases hread
      next => cases hread
  · intro hh
    cases hh with
    | grid _ height width _ hparts hheight hwidth hpos hcells =>
      obtain ⟨hrows, hcolumns⟩ := hpos
      have hsign : ¬ ((h.height : Int) ≤ 0 ∨ (h.width : Int) ≤ 0) := by omega
      have hlimit : ¬ maxCells < (h.height : Int) * h.width := not_lt.mpr hcells
      rw [(hsplit _ _).mpr hparts]
      simp only [bind, Except.bind, hheight, hwidth, Bool.or_eq_true, decide_eq_true_eq, if_neg hsign,
        if_neg hlimit, Int.toNat_natCast]
      rfl

theorem readPositive?_eq_some_iff {text : String} {x : Binary64} :
    readPositive? text = some x ↔ Numeral.readFinite? text = some x ∧ 0 < x := by
  rw [readPositive?, Option.filter_eq_some_iff, decide_eq_true_eq]

theorem readPlaneHeader_eq_ok_iff (hkey : keyword text = "2D_PLANE")
    (hstart : "2D_PLANE".toList <+: text.toList) {h : PlaneHeader} :
    readPlaneHeader text = .ok h ↔ IsHeader maxCells text (.plane h) := by
  have hsplit (bounds : Option (Rect Binary64)) (params : List String) :
      splitHeader text Kind.plane.keyword = .ok (bounds, params) ↔
        Announces "2D_PLANE" text bounds params := splitHeader_eq_ok_iff hstart
  unfold readPlaneHeader
  constructor
  · intro hread
    cases hparts : splitHeader text Kind.plane.keyword with
    | error fault => simp [hparts, bind, Except.bind] at hread
    | ok parts =>
      obtain ⟨bounds, params⟩ := parts
      simp only [hparts, bind, Except.bind] at hread
      split at hread
      next height width =>
        split at hread
        next a b ha hb =>
          cases hread
          obtain ⟨ha, hapos⟩ := readPositive?_eq_some_iff.mp ha
          obtain ⟨hb, hbpos⟩ := readPositive?_eq_some_iff.mp hb
          exact .plane _ height width hkey ((hsplit _ _).mp hparts) ha hb ⟨hapos, hbpos⟩
        next => cases hread
      next => cases hread
  · intro hh
    cases hh with
    | plane _ height width _ hparts hheight hwidth hpos =>
      rw [(hsplit _ _).mpr hparts]
      simp only [bind, Except.bind, readPositive?_eq_some_iff.mpr ⟨hheight, hpos.1⟩,
        readPositive?_eq_some_iff.mpr ⟨hwidth, hpos.2⟩]
      rfl

theorem readBarGraphHeader_eq_ok_iff (hkey : keyword text = "BAR_GRAPH")
    (hwords : words text = word :: params) {h : BarGraphHeader} :
    readBarGraphHeader params = .ok h ↔ IsHeader maxCells text (.barGraph h) := by
  unfold readBarGraphHeader
  constructor
  · intro hread
    split at hread
    next fillColor low high =>
      split at hread
      next a b ha hb =>
        split at hread
        next => cases hread
        next hle =>
          cases hread
          exact .barGraph _ word low high hkey hwords ha hb
            (Binary64.lt_of_not_le (Numeral.isFinite_of_readFinite? ha)
              (Numeral.isFinite_of_readFinite? hb) hle)
      next => cases hread
    next => cases hread
  · intro hh
    cases hh with
    | barGraph _ word' low high _ hwords' hlow hhigh hlt =>
      rw [hwords] at hwords'
      obtain ⟨-, rfl⟩ := List.cons.inj hwords'
      simp only [hlow, hhigh, if_neg (Binary64.not_le_of_lt hlt)]

theorem readCanvas_eq_draw_iff (hkey : keyword text = "CANVAS")
    (hwords : words text = word :: call.params) {c : Canvas Binary64} :
    readCanvas call = .draw (.canvas c) ↔ IsHeader maxCells text (.canvas c) := by
  unfold readCanvas
  constructor
  · intro hread
    split at hread
    next height width hparams =>
      split at hread
      next a b ha hb =>
        obtain rfl := Command.canvas.inj (Action.draw.inj (congrArg Outcome.action hread))
        obtain ⟨ha, hapos⟩ := readPositive?_eq_some_iff.mp ha
        obtain ⟨hb, hbpos⟩ := readPositive?_eq_some_iff.mp hb
        exact .canvas _ word height width hkey (by rw [hwords, hparams]) ha hb ⟨hapos, hbpos⟩
      next => cases congrArg Outcome.action hread
    next => cases congrArg Outcome.action hread
  · intro hh
    cases hh with
    | canvas _ word' height width _ hwords' hheight hwidth hpos =>
      rw [hwords] at hwords'
      obtain ⟨-, hparams⟩ := List.cons.inj hwords'
      rw [hparams]
      simp only [readPositive?_eq_some_iff.mpr ⟨hheight, hpos.1⟩,
        readPositive?_eq_some_iff.mpr ⟨hwidth, hpos.2⟩]

/-! ## What a header leads to -/

theorem describes_gridRow {h : GridHeader} {g : Grid Binary64}
    (hg : (Header.grid h).Describes (.grid g)) (w : Nat) (b : GridBlock) (i : Nat) (row : String)
    (n : Int) : (Header.grid h).Describes (.grid (gridRow w g b i row n).1) := by
  obtain ⟨hheight, hwidth, hborder, htext, hdefault, hbounds⟩ := hg
  have hkeeps := gridKeeps_gridRow w g b i row n
  exact ⟨hkeeps.height.trans hheight, hkeeps.width.trans hwidth, hkeeps.borderColor.trans hborder,
    hkeeps.textColor.trans htext, hkeeps.defaultColor.trans hdefault, hkeeps.bounds.trans hbounds⟩

theorem describes_planeRow {h : PlaneHeader} {p : Plane Binary64}
    (hp : (Header.plane h).Describes (.plane p)) (b : PlaneBlock) (i : Nat) (row : String)
    (n : Int) : (Header.plane h).Describes (.plane (planeRow p b i row n).1) := by
  obtain ⟨hheight, hwidth, hbounds⟩ := hp
  obtain ⟨hheight', hwidth', hbounds'⟩ := planeRow_header p b i row n
  exact ⟨hheight'.trans hheight, hwidth'.trans hwidth, hbounds'.trans hbounds⟩

/-- Whatever rows follow, a grid keeps what its header announced. -/
theorem readGrid_of_header {h : GridHeader} (hread : readGridHeader maxCells call.text = .ok h) :
    ∃ c, (readGrid maxCells call rest line).action = .draw c ∧ (Header.grid h).Describes c := by
  unfold readGrid
  rw [hread]
  refine ⟨_, rfl, ?_⟩
  have hblank : (Header.grid h).Describes (.grid h.blank) := ⟨rfl, rfl, rfl, rfl, rfl, rfl⟩
  exact replay_keeps (P := fun g => (Header.grid h).Describes (.grid g))
    (fun g b i row n _ hg => describes_gridRow hg h.width b i row n) hblank

theorem readPlane_of_header {h : PlaneHeader} (hread : readPlaneHeader call.text = .ok h) :
    ∃ c, (readPlane call rest line).action = .draw c ∧ (Header.plane h).Describes c := by
  unfold readPlane
  rw [hread]
  refine ⟨_, rfl, ?_⟩
  have hblank : (Header.plane h).Describes (.plane h.blank) := ⟨rfl, rfl, rfl⟩
  exact replay_keeps (P := fun p => (Header.plane h).Describes (.plane p))
    (fun p b i row n _ hp => describes_planeRow hp b i row n) hblank

theorem readBarGraph_of_header {h : BarGraphHeader}
    (hread : readBarGraphHeader call.params = .ok h) :
    ∃ c, (readBarGraph call rest line).action = .draw c ∧ (Header.barGraph h).Describes c := by
  unfold readBarGraph
  rw [hread]
  dsimp only
  split
  next => exact ⟨_, rfl, rfl, rfl, rfl⟩
  next => exact ⟨_, rfl, rfl, rfl, rfl⟩

/-- A routed text with an accepted header draws what it announces. -/
theorem perform_of_isHeader (hr : route l = some r) {h : Header}
    (hh : IsHeader maxCells r.remainder h) (number : Int) (rest : List String) (line : Int) :
    ∃ c, (perform maxCells r.remainder number rest line).action = .draw c ∧ h.Describes c := by
  have hkey := hh.keyword_eq
  have hk := isKeyword h.kind
  obtain ⟨hstart, word, params, hwords, hbefore⟩ := exists_words hr hkey hk.1.1
  cases h with
  | grid h =>
    rw [perform_of_words hk (e := ⟨_, _, _⟩) rfl hwords hbefore]
    exact readGrid_of_header ((readGridHeader_eq_ok_iff hkey hstart).mpr hh)
  | plane h =>
    rw [perform_of_words hk (e := ⟨_, _, _⟩) rfl hwords hbefore]
    exact readPlane_of_header ((readPlaneHeader_eq_ok_iff hkey hstart).mpr hh)
  | barGraph h =>
    rw [perform_of_words hk (e := ⟨_, _, _⟩) rfl hwords hbefore]
    exact readBarGraph_of_header ((readBarGraphHeader_eq_ok_iff hkey hwords).mpr hh)
  | canvas c =>
    rw [perform_of_words hk (e := ⟨_, _, _⟩) rfl hwords hbefore]
    have hdraw : readCanvas ⟨Kind.canvas.keyword, r.remainder, number, params⟩ =
        .draw (.canvas c) := (readCanvas_eq_draw_iff hkey hwords).mpr hh
    exact ⟨.canvas c, congrArg Outcome.action hdraw, rfl⟩

/-- The kinds whose commands have a header that can be refused. -/
def headedKinds : List Kind := [.grid, .plane, .barGraph, .canvas]

/-- A routed text with one of the four keywords and no accepted header is refused, and nothing else
comes of it. -/
theorem perform_of_not_isHeader (hr : route l = some r) (hk : k ∈ headedKinds)
    (hkey : keyword r.remainder = k.keyword) (hno : ∀ h, ¬ IsHeader maxCells r.remainder h)
    (number : Int) (rest : List String) (line : Int) :
    ∃ fault, perform maxCells r.remainder number rest line =
      { reports := [⟨number, .header fault⟩] } := by
  have hword := isKeyword k
  obtain ⟨hstart, word, params, hwords, hbefore⟩ := exists_words hr hkey hword.1.1
  simp only [headedKinds, List.mem_cons, List.not_mem_nil, or_false] at hk
  rcases hk with rfl | rfl | rfl | rfl
  · rw [perform_of_words hword (e := ⟨_, _, _⟩) rfl hwords hbefore]
    dsimp only
    unfold readGrid
    cases hread : readGridHeader maxCells r.remainder with
    | error fault => exact ⟨fault, rfl⟩
    | ok h => exact absurd ((readGridHeader_eq_ok_iff hkey hstart).mp hread) (hno _)
  · rw [perform_of_words hword (e := ⟨_, _, _⟩) rfl hwords hbefore]
    dsimp only
    unfold readPlane
    cases hread : readPlaneHeader r.remainder with
    | error fault => exact ⟨fault, rfl⟩
    | ok h => exact absurd ((readPlaneHeader_eq_ok_iff hkey hstart).mp hread) (hno _)
  · rw [perform_of_words hword (e := ⟨_, _, _⟩) rfl hwords hbefore]
    dsimp only
    unfold readBarGraph
    cases hread : readBarGraphHeader params with
    | error fault => exact ⟨fault, rfl⟩
    | ok h => exact absurd ((readBarGraphHeader_eq_ok_iff hkey hwords).mp hread) (hno _)
  · rw [perform_of_words hword (e := ⟨_, _, _⟩) rfl hwords hbefore]
    dsimp only
    have hcanvas (c : Canvas Binary64) :
        readCanvas ⟨Kind.canvas.keyword, r.remainder, number, params⟩ ≠ .draw (.canvas c) :=
      fun hdraw => hno _ ((readCanvas_eq_draw_iff hkey hwords).mp hdraw)
    unfold readCanvas at hcanvas ⊢
    dsimp only at hcanvas ⊢
    split at hcanvas
    next =>
      split at hcanvas
      next a b _ _ => exact absurd rfl (hcanvas ⟨a, b⟩)
      next => exact ⟨_, rfl⟩
    next => exact ⟨_, rfl⟩

/-! ## Contexts -/

theorem absorb_report (cfg : Config Binary64) (t : Track) (p : Report) :
    t.absorb cfg { reports := [p] } = { t with reports := t.reports.push p } := by
  simp [Track.absorb, Track.record, Track.report]

theorem absorb_of_draw (cfg : Config Binary64) (t : Track) {o : Outcome}
    {d : Command Binary64} (h : o.action = .draw d) : t.absorb cfg o =
      { t with
        commands := t.commands.push d
        raw := t.raw ++ o.taken.toArray
        reports := t.reports ++ o.reports.toArray } := by
  simp [Track.absorb, h, Track.draw, Track.record, Track.report]

/-- One session follows another by a change of one track; the mode of that track may be new. -/
structure Session.Changes (s : Session) (mode : String) (t : Track) (s' : Session) : Prop where
  track_eq : s'.track mode = t
  others : ∀ m, m ≠ mode → s'.track m = s.track m
  modes_eq : s'.modes = addMode s.modes mode

theorem changes_update (s : Session) (mode : String) (f : Track → Track) :
    s.Changes mode (f (s.track mode)) (s.update mode f) where
  track_eq := by rw [Session.track_update, if_pos rfl]
  others := by
    intro m hm
    rw [Session.track_update, if_neg hm]
  modes_eq := Session.modes_update s mode f

/-- A header decides alone. Wherever a reading stands and whatever it holds pending, a script line
with a header that is refused adds one report on its line to its mode and changes nothing else; one
with a header that is accepted adds one command to its mode, which has what the header announces,
takes lines behind it into the mode and may report, but commits nothing. -/
theorem header_decides (cfg : Config Binary64) (s : Session) (lines : List String) (i : Nat)
    (hr : route l = some r) (hk : k ∈ headedKinds) (hkey : keyword r.remainder = k.keyword)
    (number : Int) :
    let c : Context := { cursor := .ofIndex lines i, session := s }
    let t : Track := s.track r.mode
    ((∀ h, ¬ IsHeader cfg.maxGridCells r.remainder h) →
      ∃ fault s', c.dispatch cfg r.mode r.remainder number = .ok { c with session := s' } ∧
        s.Changes r.mode { t with reports := t.reports.push ⟨number, .header fault⟩ } s') ∧
    (∀ h, IsHeader cfg.maxGridCells r.remainder h →
      ∃ d n reports s', c.dispatch cfg r.mode r.remainder number =
          .ok { cursor := .ofIndex lines (i + n : Nat), session := s' } ∧
        d.kind = k ∧ h.Describes d ∧
        s.Changes r.mode { t with
          commands := t.commands.push d
          raw := t.raw ++ ((lines.drop i).take n).toArray
          reports := t.reports ++ reports } s') := by
  intro c t
  have hcursor : c.cursor = ⟨lines.drop i, i + 1, 0⟩ := Cursor.ofIndex_natCast lines i
  have hdispatch := Context.dispatch_eq cfg (c := c) (by rw [hcursor]) r.mode r.remainder number
  obtain ⟨⟨more, hmore⟩, -⟩ :=
    takes_perform cfg.maxGridCells r.remainder number c.cursor.rest c.cursor.line
  constructor
  · intro hno
    obtain ⟨fault, hperform⟩ := perform_of_not_isHeader hr hk hkey hno number c.cursor.rest
      c.cursor.line
    rw [hperform] at hdispatch
    have hchange := changes_update s r.mode (·.absorb cfg { reports := [⟨number, .header fault⟩] })
    rw [absorb_report] at hchange
    refine ⟨fault, _, hdispatch.trans ?_, hchange⟩
    have hstay : c.cursor.advance 0 = c.cursor := Cursor.ofIndex_advance lines i 0
    exact congrArg (fun cursor => Except.ok { c.update r.mode _ with cursor }) hstay
  · intro h hh
    obtain ⟨d, hdraw, hdescribes⟩ := perform_of_isHeader hr hh number c.cursor.rest c.cursor.line
    generalize perform cfg.maxGridCells r.remainder number c.cursor.rest c.cursor.line = o
      at hdispatch hdraw hmore
    have hkind : d.kind = k := by
      apply keyword_injective
      rw [← hkey, hh.keyword_eq]
      cases h <;> cases d <;> first | rfl | exact hdescribes.elim
    have htaken : (lines.drop i).take o.taken.length = o.taken := by
      rw [hcursor] at hmore
      dsimp only at hmore
      rw [← hmore, List.take_left]
    have hchange := changes_update s r.mode (·.absorb cfg o)
    rw [absorb_of_draw cfg _ hdraw, ← htaken] at hchange
    refine ⟨d, o.taken.length, _, _, hdispatch.trans ?_, hkind, hdescribes, hchange⟩
    have hmoved : c.cursor.advance o.taken.length = .ofIndex lines (i + o.taken.length : Nat) :=
      Cursor.ofIndex_advance lines i o.taken.length
    exact congrArg (fun cursor => Except.ok { c.update r.mode _ with cursor }) hmoved

/-- Two modes with something pending. -/
def pendingSession : Session where
  tracks := [(defaultMode, { commands := #[.debug], raw := #["$v DEBUG"] }),
    ("b", { commands := #[.score "1"], reports := #[⟨3, .barDataMissing⟩] })]

/-- A grid without a row is refused; one of a single cell is drawn, although its last block is cut
off by a line of another mode. -/
theorem header_decides_cut :
    let t : Track := pendingSession.track "b"
    let c : Context := { cursor := .ofIndex ["CELL_TEXT", "$v DEBUG"] 0, session := pendingSession }
    (∃ fault s', c.dispatch {} "b" "GRID 0 1 a a a" 7 = .ok { c with session := s' } ∧
      pendingSession.Changes "b" { t with reports := t.reports.push ⟨7, .header fault⟩ } s') ∧
    ∃ d n reports s', c.dispatch {} "b" "GRID(0,0,1,1) 1 1 a a a" 7 =
        .ok { cursor := .ofIndex ["CELL_TEXT", "$v DEBUG"] (0 + n : Nat), session := s' } ∧
      (Header.grid ⟨1, 1, "a", "a", "a", some ⟨0, 0, 1.0, 1.0⟩⟩).Describes d ∧
      pendingSession.Changes "b" { t with
        commands := t.commands.push d
        raw := t.raw ++ ((["CELL_TEXT", "$v DEBUG"].drop 0).take n).toArray
        reports := t.reports ++ reports } s' := by
  have hempty : route "$v(b) GRID 0 1 a a a" = some ⟨"b", "GRID 0 1 a a a"⟩ := by decide +kernel
  have hcell : route "$v(b) GRID(0,0,1,1) 1 1 a a a" = some ⟨"b", "GRID(0,0,1,1) 1 1 a a a"⟩ := by
    decide +kernel
  have hno : ∀ h, ¬ IsHeader 1000000 "GRID 0 1 a a a" h := by
    intro h hh
    obtain ⟨d, hdraw, -⟩ := perform_of_isHeader hempty hh 7 [] 8
    have hidle : (perform 1000000 "GRID 0 1 a a a" 7 [] 8).action = .idle := by decide +kernel
    rw [hidle] at hdraw
    cases hdraw
  have hyes : IsHeader 1000000 "GRID(0,0,1,1) 1 1 a a a"
      (.grid ⟨1, 1, "a", "a", "a", some ⟨0, 0, 1.0, 1.0⟩⟩) :=
    (readGridHeader_eq_ok_iff (by decide +kernel) (by decide)).mp (by decide +kernel)
  have hk : Kind.grid ∈ headedKinds := by decide
  refine ⟨(header_decides {} pendingSession _ 0 hempty hk (by decide +kernel) 7).1 hno, ?_⟩
  obtain ⟨d, n, reports, s', hdispatch, -, hdescribes, hchanges⟩ :=
    (header_decides {} pendingSession ["CELL_TEXT", "$v DEBUG"] 0 hcell hk (by decide +kernel)
      7).2 _ hyes
  exact ⟨d, n, reports, s', hdispatch, hdescribes, hchanges⟩

end Flipbook.Script
