import EntityGen.Proofs.Files

/-! # Where paths lead

What follows from the pieces of a path alone, whatever there is in the tree.

* `resolve_push`: a path below a root leads on from where the root leads.
* `parent_cases`: the path of the directory around a path has its first pieces.
* `isBelow_of_isInner`: a path that never goes up out of its start leads below its root, and so do
  the directories on the way (`way_push`). -/

namespace EntityGen

theorem Text.split_join {sep : Char} {parts : List (List Char)} (hne : parts ≠ [])
    (h : ∀ part ∈ parts, sep ∉ part) : split sep (join sep parts) = parts := by
  induction parts with
  | nil => exact absurd rfl hne
  | cons part parts ih =>
    rw [List.forall_mem_cons] at h
    cases parts with
    | nil => exact split_of_notMem h.1
    | cons next parts =>
      change split sep (part ++ sep :: join sep (next :: parts)) = _
      rw [split_append, split_of_notMem h.1, ih (List.cons_ne_nil next parts) h.2]
      rfl

namespace Path

/-- Where a path leads from the directory at `current` if it leads anywhere. -/
def resolve (current : Place) (path : String) : Place :=
  lead (if isAbsolute path then [] else current) (pieces path)

/-- The places that pieces lead through, from the first on. -/
def way : (place : Place) → (pieces : List String) → List Place
  | place, [] => [place]
  | place, piece :: pieces =>
    place ::
      if piece = "" || piece = "." then way place pieces
      else if piece = ".." then way place.dropLast pieces
      else way (place ++ [piece]) pieces

/-- The places of the directories that are made around a path. -/
def passage (current : Place) (path : String) : List Place :=
  if parent path = "" then []
  else way (if isAbsolute (parent path) then [] else current) (pieces (parent path))

/-! ## Pushing a path onto a root -/

theorem lead_append (place : Place) (first second : List String) :
    lead place (first ++ second) = lead (lead place first) second := by
  induction first generalizing place with
  | nil => rfl
  | cons piece first ih =>
    simp only [List.cons_append, lead, ih]
    split
    · rfl
    · split <;> rfl

/-- A pushed path leads to where the path leads that it was pushed onto, and goes on with its own
pieces. -/
theorem pieces_push (root : String) {path : String} (h : isAbsolute path = false) :
    ∃ first, pieces (push root path) = first ++ pieces path ∧
      isAbsolute (push root path) = isAbsolute root ∧ first <+: pieces root ∧
      ∀ place, lead place first = lead place (pieces root) := by
  obtain ⟨first, hpush, habs, hfirst⟩ := pieces_push_cases root h
  refine ⟨first, hpush, habs, ?_⟩
  rcases hfirst with heq | heq
  · rw [heq]
    exact ⟨List.prefix_rfl, fun _ => rfl⟩
  · rw [heq]
    refine ⟨List.prefix_append _ _, fun place => ?_⟩
    rw [lead_append]
    rfl

theorem exists_pieces_push (root path : String) :
    ∃ first, pieces (push root path) = first ++ pieces path := by
  cases h : isAbsolute path with
  | true => exact ⟨[], by rw [push, if_pos h, List.nil_append]⟩
  | false =>
    obtain ⟨first, hpush, -⟩ := pieces_push root h
    exact ⟨first, hpush⟩

/-- A path below a root leads on from where the root leads. -/
theorem resolve_push {path : String} (h : isAbsolute path = false) (current : Place)
    (root : String) :
    resolve current (push root path) = lead (resolve current root) (pieces path) := by
  obtain ⟨first, hpush, habs, -, hlead⟩ := pieces_push root h
  rw [resolve, resolve, hpush, habs, lead_append, hlead]

/-! ## Names -/

/-- A piece is a name: it neither stays nor goes up. -/
def IsPlain (piece : String) : Prop := piece ≠ "" ∧ piece ≠ "." ∧ piece ≠ ".."

theorem isPlain_of_notMem {piece : String} (hdot : '.' ∉ piece.toList) (hne : piece ≠ "") :
    IsPlain piece := by
  refine ⟨hne, ?_, ?_⟩
  · rintro rfl
    exact hdot (by decide)
  · rintro rfl
    exact hdot (by decide)

theorem isPlain_java (name : String) : IsPlain (name ++ ".java") := by
  have hlength : 5 ≤ (name ++ ".java").length := by
    rw [String.length_append]
    exact Nat.le_add_left 5 _
  have hne : ∀ piece : String, piece.length < 5 → name ++ ".java" ≠ piece := by
    rintro piece hpiece rfl
    omega
  exact ⟨hne _ (by decide), hne _ (by decide), hne _ (by decide)⟩

theorem lead_of_isPlain {pieces : List String} (h : ∀ piece ∈ pieces, IsPlain piece)
    (place : Place) : lead place pieces = place ++ pieces := by
  induction pieces generalizing place with
  | nil => rw [lead, List.append_nil]
  | cons piece pieces ih =>
    rw [List.forall_mem_cons] at h
    obtain ⟨⟨hempty, hdot, hup⟩, hrest⟩ := h
    rw [lead, if_neg (by simp [hempty, hdot]), if_neg hup, ih hrest, List.append_assoc,
      List.singleton_append]

theorem isAbsolute_of_notMem {path : String} (h : separator ∉ path.toList) :
    isAbsolute path = false := by
  cases hpath : path.toList with
  | nil => simp [isAbsolute, hpath]
  | cons c cs =>
    rw [hpath, List.mem_cons, not_or] at h
    simp [isAbsolute, hpath, Ne.symm h.1]

/-- Names without separators are the pieces of their path. -/
theorem pieces_ofPieces {parts : List String} (hne : parts ≠ [])
    (h : ∀ part ∈ parts, separator ∉ part.toList ∧ IsPlain part) :
    pieces (ofPieces parts) = parts ∧ isAbsolute (ofPieces parts) = false := by
  induction parts using List.reverseRecOn with
  | nil => exact absurd rfl hne
  | append_singleton parts part ih =>
    have hpart := (h part (by simp)).1
    have hparts : ∀ part ∈ parts, separator ∉ part.toList ∧ IsPlain part :=
      fun part hpart => h part (List.mem_append_left _ hpart)
    have habs := isAbsolute_of_notMem hpart
    rw [ofPieces, List.foldl_append]
    change pieces (push (ofPieces parts) part) = _ ∧ isAbsolute (push (ofPieces parts) part) = _
    by_cases hnil : parts = []
    · subst hnil
      have hpush : push (ofPieces []) part = part := by
        rw [push, if_neg (by simp [habs])]
        rfl
      rw [hpush, pieces_of_notMem hpart]
      exact ⟨rfl, habs⟩
    · obtain ⟨hpieces, habs'⟩ := ih hnil hparts
      obtain ⟨first, hpush, hstart, hfirst, hlead⟩ := pieces_push (ofPieces parts) habs
      -- all names lead on, so none of them is left out
      have hall := hlead []
      rw [hpieces] at hfirst
      rw [hpieces, lead_of_isPlain (fun part hpart => (hparts part hpart).2),
        lead_of_isPlain fun part hpart => (hparts part (hfirst.subset hpart)).2] at hall
      rw [hstart, habs', hpush, pieces_of_notMem hpart]
      exact ⟨congrArg (· ++ [part]) hall, rfl⟩

/-! ## On the way -/

theorem mem_way_self (place : Place) (pieces : List String) : place ∈ way place pieces := by
  cases pieces <;> simp [way]

theorem lead_mem_way (place : Place) (pieces : List String) :
    lead place pieces ∈ way place pieces := by
  induction pieces generalizing place with
  | nil => simp [lead, way]
  | cons piece pieces ih =>
    rw [lead, way]
    refine List.mem_cons_of_mem _ ?_
    split
    · exact ih place
    · split
      · exact ih place.dropLast
      · exact ih (place ++ [piece])

theorem mem_way_append {place q : Place} {first second : List String} :
    q ∈ way place (first ++ second) ↔ q ∈ way place first ∨ q ∈ way (lead place first) second := by
  induction first generalizing place with
  | nil =>
    rw [List.nil_append, lead, way, List.mem_singleton]
    exact ⟨.inr, Or.rec (fun h => h ▸ mem_way_self place second) id⟩
  | cons piece first ih =>
    rw [List.cons_append, way, way, lead, List.mem_cons, List.mem_cons, or_assoc]
    split
    · rw [ih]
    · split
      · rw [ih]
      · rw [ih]

theorem mem_way_of_start {place q : Place} {first pieces : List String} (h : first <+: pieces)
    (hq : q ∈ way place first) : q ∈ way place pieces := by
  obtain ⟨rest, rfl⟩ := h
  exact mem_way_append.2 (.inl hq)

theorem exists_of_mem_way_of_isPlain {place q : Place} {pieces : List String}
    (h : ∀ piece ∈ pieces, IsPlain piece) (hq : q ∈ way place pieces) :
    ∃ taken, taken <+: pieces ∧ q = place ++ taken := by
  induction pieces generalizing place with
  | nil => exact ⟨[], List.nil_prefix, by rw [List.append_nil, List.mem_singleton.1 hq]⟩
  | cons piece pieces ih =>
    rw [List.forall_mem_cons] at h
    obtain ⟨⟨hempty, hdot, hup⟩, hrest⟩ := h
    rw [way, if_neg (by simp [hempty, hdot]), if_neg hup] at hq
    rcases List.mem_cons.1 hq with rfl | hq
    · exact ⟨[], List.nil_prefix, (List.append_nil _).symm⟩
    · obtain ⟨taken, htaken, rfl⟩ := ih hrest hq
      refine ⟨piece :: taken, List.cons_prefix_cons.2 ⟨rfl, htaken⟩, ?_⟩
      rw [List.append_assoc, List.singleton_append]

/-- A path starts at the root exactly if its first piece is empty and not the last. -/
theorem isAbsolute_ofList {part : List Char} {parts : List (List Char)} (h : separator ∉ part) :
    isAbsolute (String.ofList (Text.join separator (part :: parts))) = true ↔
      part = [] ∧ parts ≠ [] := by
  rw [isAbsolute, String.toList_ofList, Text.join_cons, decide_eq_true_iff]
  cases part with
  | nil => cases parts <;> simp
  | cons c part =>
    rw [List.mem_cons, not_or] at h
    simp [Ne.symm h.1]

theorem isPrefix_dropIdleEnd (pieces : List (List Char)) : dropIdleEnd pieces <+: pieces := by
  obtain ⟨dropped, hdropped⟩ := List.dropWhile_suffix isIdle (l := pieces.reverse)
  refine ⟨dropped.reverse, ?_⟩
  rw [dropIdleEnd, ← List.reverse_append, hdropped, List.reverse_reverse]

/-- The directory around a path is the root, or its path has the first pieces of the path, without
the last. -/
theorem parent_cases {path : String} (h : parent path ≠ "") :
    isAbsolute path = true ∧ parent path = "/" ∨
      isAbsolute (parent path) = isAbsolute path ∧
        pieces (parent path) <+: (pieces path).dropLast := by
  have hseps : ∀ part ∈ Text.split separator path.toList, separator ∉ part :=
    fun part => Text.notMem_of_mem_split
  have hpath := Text.join_split separator path.toList
  rw [pieces]
  unfold parent at h ⊢
  cases hsplit : Text.split separator path.toList with
  | nil => exact absurd hsplit (Text.split_ne_nil _ _)
  | cons first rest =>
    rw [hsplit] at h hseps hpath
    dsimp only at h ⊢
    have habs : isAbsolute path = true ↔ first = [] ∧ rest ≠ [] := by
      rw [← isAbsolute_ofList (hseps first List.mem_cons_self), hpath, String.ofList_toList]
    cases hnamed : dropIdleEnd rest with
    | nil =>
      rw [hnamed] at h
      exact absurd rfl h
    | cons name named =>
      rw [hnamed] at h
      dsimp only at h ⊢
      have hrest : name :: named <+: rest := hnamed ▸ isPrefix_dropIdleEnd rest
      have hne : rest ≠ [] := by
        rintro rfl
        exact absurd (List.prefix_nil.1 hrest) (List.cons_ne_nil name named)
      have hinit : (name :: named).dropLast <+: rest.dropLast := by
        rw [List.dropLast_eq_take (l := rest), List.prefix_take_iff, List.length_dropLast]
        exact ⟨(List.dropLast_prefix _).trans hrest, Nat.sub_le_sub_right hrest.length_le 1⟩
      have htail : dropIdleEnd (name :: named).dropLast <+: rest.dropLast :=
        (isPrefix_dropIdleEnd _).trans hinit
      generalize dropIdleEnd (name :: named).dropLast = tail at htail ⊢
      split
      · next hroot =>
        obtain ⟨rfl, rfl⟩ := List.cons.inj hroot
        exact .inl ⟨habs.2 ⟨rfl, hne⟩, rfl⟩
      · next hroot =>
        have hkept : first :: tail <+: (first :: rest).dropLast := by
          rw [List.dropLast_cons_of_ne_nil hne]
          exact List.cons_prefix_cons.2 ⟨rfl, htail⟩
        have htailSeps : ∀ part ∈ first :: tail, separator ∉ part := fun part hpart =>
          hseps part ((hkept.trans (List.dropLast_prefix _)).subset hpart)
        refine .inr ⟨?_, ?_⟩
        · rw [Bool.eq_iff_iff, habs, isAbsolute_ofList (hseps first List.mem_cons_self)]
          refine and_congr_right fun hfirst => iff_of_true ?_ hne
          rintro rfl
          exact hroot (by rw [hfirst])
        · rw [pieces, String.toList_ofList, Text.split_join (List.cons_ne_nil _ _) htailSeps,
            hsplit, ← List.map_dropLast]
          exact hkept.map _

/-- The way to the directory around a path is a part of the way to its last piece. -/
theorem mem_way_of_mem_passage {current q : Place} {path : String} (h : q ∈ passage current path) :
    q ∈ way (if isAbsolute path then [] else current) (pieces path).dropLast := by
  unfold passage at h
  split at h
  · exact absurd h List.not_mem_nil
  · next hne =>
    rcases parent_cases hne with ⟨habs, hroot⟩ | ⟨habs, hfirst⟩
    · have hways : ∀ q ∈ way [] (pieces "/"), q = [] := by decide
      rw [hroot] at h
      rw [if_pos habs, hways q h]
      exact mem_way_self [] _
    · rw [habs] at h
      exact mem_way_of_start hfirst h

/-! ## Inner paths -/

/-- The place lies below `base` and is not that place. -/
def IsBelow (base place : Place) : Prop := ∃ names, names ≠ [] ∧ place = base ++ names

/-- How far below their start pieces lead from `depth` on; `none` if they go up out of it. -/
def depth? : (depth : Nat) → (pieces : List String) → Option Nat
  | depth, [] => some depth
  | depth, piece :: pieces =>
    if piece = "" || piece = "." then depth? depth pieces
    else if piece = ".." then if depth = 0 then none else depth? (depth - 1) pieces
    else depth? (depth + 1) pieces

/-- Whether a path leads to a place below its start without going up out of it. -/
def isInner (path : String) : Bool :=
  !isAbsolute path && (depth? 0 (pieces path)).any (0 < ·)

theorem isInner_iff {path : String} : isInner path = true ↔
    isAbsolute path = false ∧ ∃ depth, depth? 0 (pieces path) = some depth ∧ 0 < depth := by
  rw [isInner, Bool.and_eq_true, Bool.not_eq_true']
  cases depth? 0 (pieces path) <;> simp

theorem depth?_of_isPlain {pieces : List String} (h : ∀ piece ∈ pieces, IsPlain piece)
    (depth : Nat) : depth? depth pieces = some (depth + pieces.length) := by
  induction pieces generalizing depth with
  | nil => rfl
  | cons piece pieces ih =>
    rw [List.forall_mem_cons] at h
    obtain ⟨⟨hempty, hdot, hup⟩, hrest⟩ := h
    rw [depth?, if_neg (by simp [hempty, hdot]), if_neg hup, ih hrest, List.length_cons,
      Nat.add_right_comm, Nat.add_assoc]

theorem mem_lead {place : Place} {pieces : List String} {name : String}
    (h : name ∈ lead place pieces) : name ∈ place ∨ name ∈ pieces := by
  induction pieces generalizing place with
  | nil => exact .inl h
  | cons piece pieces ih =>
    rw [lead] at h
    split at h
    · exact (ih h).imp_right (List.mem_cons_of_mem piece)
    · split at h
      · exact (ih h).imp List.mem_of_mem_dropLast (List.mem_cons_of_mem piece)
      · rcases ih h with h | h
        · rcases List.mem_append.1 h with h | h
          · exact .inl h
          · exact .inr (List.mem_singleton.1 h ▸ List.mem_cons_self)
        · exact .inr (List.mem_cons_of_mem piece h)

/-- Pieces that do not go up out of their start lead to a place below it. -/
theorem lead_of_depth? (base above : Place) {pieces : List String} {depth : Nat}
    (h : depth? above.length pieces = some depth) :
    ∃ names, lead (base ++ above) pieces = base ++ names ∧ names.length = depth := by
  induction pieces generalizing above with
  | nil => exact ⟨above, rfl, Option.some.inj h⟩
  | cons piece pieces ih =>
    rw [depth?] at h
    rw [lead]
    split at h
    · next hidle =>
      rw [if_pos hidle]
      exact ih _ h
    · next hidle =>
      rw [if_neg hidle]
      split at h
      · next hup =>
        rw [if_pos hup]
        cases above using List.reverseRecOn with
        | nil => cases h
        | append_singleton above name =>
          rw [← List.append_assoc, List.dropLast_concat]
          rw [List.length_append, List.length_singleton, if_neg (Nat.succ_ne_zero _)] at h
          exact ih _ h
      · next hup =>
        rw [if_neg hup, List.append_assoc]
        exact ih _ (by rwa [List.length_append, List.length_singleton])

/-- Pieces that go up out of their start do not lead below a directory that they do not name. -/
theorem notMem_lead_of_depth? {above : Place} {pieces : List String} {name : String}
    (habove : name ∉ above) (hpieces : name ∉ pieces) (h : depth? above.length pieces = none) :
    name ∉ lead (name :: above) pieces := by
  induction pieces generalizing above with
  | nil => cases h
  | cons piece pieces ih =>
    rw [List.mem_cons, not_or] at hpieces
    rw [depth?] at h
    rw [lead]
    split at h
    · next hidle =>
      rw [if_pos hidle]
      exact ih habove hpieces.2 h
    · next hidle =>
      rw [if_neg hidle]
      split at h
      · next hup =>
        rw [if_pos hup]
        cases above using List.reverseRecOn with
        | nil =>
          intro hmem
          exact (mem_lead hmem).elim List.not_mem_nil hpieces.2
        | append_singleton above last =>
          rw [← List.cons_append, List.dropLast_concat]
          rw [List.length_append, List.length_singleton, if_neg (Nat.succ_ne_zero _)] at h
          exact ih (fun hmem => habove (List.mem_append_left _ hmem)) hpieces.2 h
      · next hup =>
        rw [if_neg hup, List.cons_append]
        refine ih ?_ hpieces.2 (by rwa [List.length_append, List.length_singleton])
        simp [habove, hpieces.1]

/-- An inner path leads below its root. -/
theorem isBelow_of_isInner {path : String} (h : isInner path = true) (current : Place)
    (root : String) : IsBelow (resolve current root) (resolve current (push root path)) := by
  obtain ⟨habs, depth, hdepth, hpos⟩ := isInner_iff.1 h
  obtain ⟨names, hlead, hlength⟩ :=
    lead_of_depth? (resolve current root) [] hdepth
  rw [List.append_nil] at hlead
  refine ⟨names, ?_, by rw [resolve_push habs, hlead]⟩
  rintro rfl
  rw [← hlength] at hpos
  cases hpos

/-- Pieces that do not go up out of their start lead through places below it. -/
theorem exists_of_mem_way (base above : Place) {q : Place} {pieces : List String} {depth : Nat}
    (h : depth? above.length pieces = some depth) (hq : q ∈ way (base ++ above) pieces) :
    ∃ names, q = base ++ names := by
  induction pieces generalizing above with
  | nil => exact ⟨above, List.mem_singleton.1 hq⟩
  | cons piece pieces ih =>
    rw [depth?] at h
    rw [way] at hq
    rcases List.mem_cons.1 hq with rfl | hq
    · exact ⟨above, rfl⟩
    · split at h
      · next hidle =>
        rw [if_pos hidle] at hq
        exact ih _ h hq
      · next hidle =>
        rw [if_neg hidle] at hq
        split at h
        · next hup =>
          rw [if_pos hup] at hq
          cases above using List.reverseRecOn with
          | nil => cases h
          | append_singleton above name =>
            rw [← List.append_assoc, List.dropLast_concat] at hq
            rw [List.length_append, List.length_singleton, if_neg (Nat.succ_ne_zero _)] at h
            exact ih _ h hq
        · next hup =>
          rw [if_neg hup, List.append_assoc] at hq
          exact ih _ (by rwa [List.length_append, List.length_singleton]) hq

/-- The way to the last piece of an inner path lies below its root, from the root on. -/
theorem way_push {current q : Place} {root path : String} (h : isInner path = true)
    (hq : q ∈ way (if isAbsolute (push root path) then [] else current)
      (pieces (push root path)).dropLast) :
    IsBelow (resolve current root) q ∨
      q ∈ way (if isAbsolute root then [] else current) (pieces root) := by
  obtain ⟨habs, depth, hdepth, -⟩ := isInner_iff.1 h
  obtain ⟨first, hpush, hstart, hfirst, hlead⟩ := pieces_push root habs
  have hq := mem_way_of_start (List.dropLast_prefix _) hq
  rw [hpush, hstart, mem_way_append, hlead] at hq
  rcases hq with hq | hq
  · exact .inr (mem_way_of_start hfirst hq)
  · change q ∈ way (resolve current root) (pieces path) at hq
    rw [← List.append_nil (resolve current root)] at hq
    obtain ⟨names, rfl⟩ := exists_of_mem_way (resolve current root) [] hdepth hq
    by_cases hnames : names = []
    · rw [hnames, List.append_nil]
      exact .inr (lead_mem_way _ _)
    · exact .inl ⟨names, hnames, rfl⟩

end Path
end EntityGen
