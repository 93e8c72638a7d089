import EntityGen.Files.Faults
import Mathlib.Data.List.Infix

/-! # Paths in trees of files

Where a path leads is a matter of its pieces alone, as long as it leads somewhere (`eq_lead`). A
path that is pushed onto another one puts its pieces behind (`pieces_push_cases`), so a path below a
directory goes on from there (`follow?_push`). In a tree whose nodes all lie in directories
(`FileTree.WellFormed`) a path without `..` that leads to a file in some tree leads to it in every
tree that has the file (`follow?_of_straight`).

`FileTree.Guards`: a tree has a file, and all the directories that there were. Making directories
keeps this, and so does writing to any other place. -/

namespace EntityGen

theorem Text.split_append (sep : Char) (first second : List Char) :
    split sep (first ++ sep :: second) = split sep first ++ split sep second := by
  induction first with
  | nil => simp [split]
  | cons c first ih =>
    have hne := split_ne_nil sep first
    rw [List.cons_append, split, split, ih]
    split
    · rfl
    · cases hs : split sep first with
      | nil => exact absurd hs hne
      | cons part parts => rfl

theorem Text.split_of_notMem {sep : Char} {text : List Char} (h : sep ∉ text) :
    split sep text = [text] := by
  induction text with
  | nil => rfl
  | cons c text ih =>
    have hc : c ≠ sep := fun heq => h (heq ▸ List.mem_cons_self)
    rw [split, if_neg hc, ih fun hmem => h (List.mem_cons_of_mem c hmem)]

theorem Text.mem_of_mem_split {sep c : Char} {text part : List Char} (h : part ∈ split sep text)
    (hc : c ∈ part) : c ∈ text := by
  rw [← join_split sep text]
  cases hs : split sep text with
  | nil => exact absurd hs (split_ne_nil sep text)
  | cons first parts =>
    rw [hs] at h
    rw [join_cons, List.mem_append]
    rcases List.mem_cons.1 h with rfl | h
    · exact .inl hc
    · exact .inr (List.mem_flatMap.2 ⟨part, h, List.mem_cons_of_mem sep hc⟩)

namespace Path

theorem pieces_eq_append {path : String} {first second : List Char}
    (h : path.toList = first ++ separator :: second) :
    pieces path = (Text.split separator first).map String.ofList ++
      (Text.split separator second).map String.ofList := by
  rw [Path.pieces, h, Text.split_append, List.map_append]

theorem pieces_of_notMem {path : String} (h : separator ∉ path.toList) : pieces path = [path] := by
  rw [pieces, Text.split_of_notMem h, List.map_singleton, String.ofList_toList]

/-- A path that is pushed onto another one puts its pieces behind those of the other, whose empty
last piece makes room for them. -/
theorem pieces_push_cases (root : String) {path : String} (h : isAbsolute path = false) :
    ∃ first, pieces (push root path) = first ++ pieces path ∧
      isAbsolute (push root path) = isAbsolute root ∧
      (pieces root = first ∨ pieces root = first ++ [""]) := by
  have habs : ∀ path, root.toList ≠ [] → isAbsolute (root ++ path) = isAbsolute root := by
    intro path hne
    rw [isAbsolute, isAbsolute, String.toList_append, List.head?_append_of_ne_nil _ hne]
  rw [push, if_neg (by simp [h])]
  cases hlast : root.toList.getLast? with
  | none =>
    -- the empty path is the current directory
    have hempty : root.toList = [] := List.getLast?_eq_none_iff.1 hlast
    refine ⟨[], rfl, ?_, .inr ?_⟩
    · rw [h, isAbsolute, hempty]
      rfl
    · rw [pieces, hempty]
      rfl
  | some c =>
    have hne : root.toList ≠ [] := by
      intro hnil
      rw [hnil] at hlast
      cases hlast
    dsimp only
    split
    · next hsep =>
      obtain ⟨first, hfirst⟩ := List.getLast?_eq_some_iff.1 hlast
      subst hsep
      have hpush : (root ++ path).toList = first ++ separator :: path.toList := by
        rw [String.toList_append, hfirst]
        simp
      exact ⟨_, pieces_eq_append hpush, habs path hne, .inr (pieces_eq_append hfirst)⟩
    · have hpush : (root ++ "/" ++ path).toList = root.toList ++ separator :: path.toList := by
        simp [separator]
      refine ⟨_, pieces_eq_append hpush, ?_, .inl rfl⟩
      rw [String.append_assoc, habs _ hne]

/-- A pushed path has no pieces of its own. -/
theorem mem_pieces_of_push {path piece x : String} (h : x ∈ pieces (push path piece)) :
    x ∈ pieces path ∨ x ∈ pieces piece := by
  cases habs : isAbsolute piece with
  | true =>
    rw [push, if_pos habs] at h
    exact .inr h
  | false =>
    obtain ⟨first, hpush, -, hfirst⟩ := pieces_push_cases path habs
    rw [hpush, List.mem_append] at h
    refine h.imp_left fun hx => ?_
    rcases hfirst with hroot | hroot
    · exact hroot ▸ hx
    · exact hroot ▸ List.mem_append_left _ hx

theorem mem_pieces_of_ofPieces {parts : List String} {x : String}
    (h : x ∈ pieces (ofPieces parts)) : x = "" ∨ ∃ part ∈ parts, x ∈ pieces part := by
  induction parts using List.reverseRecOn with
  | nil =>
    exact .inl (List.mem_singleton.1 h)
  | append_singleton parts part ih =>
    rw [ofPieces, List.foldl_append] at h
    rcases mem_pieces_of_push h with h | h
    · refine (ih h).imp_right ?_
      rintro ⟨part, hpart, h⟩
      exact ⟨part, List.mem_append_left _ hpart, h⟩
    · exact .inr ⟨part, by simp, h⟩

/-- Where pieces lead from a place if they lead anywhere. -/
def lead : (place : Place) → (pieces : List String) → Place
  | place, [] => place
  | place, piece :: pieces =>
    if piece = "" || piece = "." then lead place pieces
    else if piece = ".." then lead place.dropLast pieces
    else lead (place ++ [piece]) pieces

/-- Pieces that never go up lead to a place below. -/
theorem prefix_lead {pieces : List String} (h : ".." ∉ pieces) (place : Place) :
    place <+: lead place pieces := by
  induction pieces generalizing place with
  | nil => exact List.prefix_rfl
  | cons piece pieces ih =>
    have hrest : ".." ∉ pieces := fun hmem => h (List.mem_cons_of_mem piece hmem)
    rw [lead]
    split
    · exact ih hrest place
    · split
      · next hup => exact absurd (hup ▸ List.mem_cons_self) h
      · exact (List.prefix_append place [piece]).trans (ih hrest _)

end Path

namespace FileTree

variable {t t' : FileTree} {place p q base : Place} {pieces : List String} {path root text : String}

/-! ## Following paths -/

/-- One step along a path. -/
theorem follow?_cons_eq_some_iff {piece : String} :
    t.follow? place (piece :: pieces) = some q ↔ t.isDirectory place = true ∧
      ((piece = "" ∨ piece = ".") ∧ t.follow? place pieces = some q ∨
        ¬ (piece = "" ∨ piece = ".") ∧
          (piece = ".." ∧ t.follow? place.dropLast pieces = some q ∨
            piece ≠ ".." ∧ isName piece = true ∧
              t.follow? (place ++ [piece]) pieces = some q)) := by
  rw [follow?]
  by_cases hdir : t.isDirectory place
  · by_cases hidle : piece = "" ∨ piece = "."
    · simp [hdir, hidle]
    · by_cases hup : piece = ".."
      · simp [hdir, hup]
      · by_cases hname : isName piece
        · simp [hdir, hidle, hup, hname]
        · simp [hdir, hidle, hup, hname]
  · simp [hdir]

theorem follow?_append (t : FileTree) (place : Place) (first second : List String) :
    t.follow? place (first ++ second) =
      (t.follow? place first).bind fun place => t.follow? place second := by
  induction first generalizing place with
  | nil => rfl
  | cons piece first ih =>
    rw [List.cons_append, follow?, follow?]
    simp only [ih]
    repeat' split
    all_goals rfl

theorem eq_lead (h : t.follow? place pieces = some q) : q = Path.lead place pieces := by
  induction pieces generalizing place with
  | nil =>
    cases h
    rfl
  | cons piece pieces ih =>
    rw [Path.lead]
    obtain ⟨-, ⟨hidle, h⟩ | ⟨hidle, ⟨hup, h⟩ | ⟨hup, -, h⟩⟩⟩ := follow?_cons_eq_some_iff.1 h
    · simpa [hidle] using ih h
    · simpa [hidle, hup] using ih h
    · simpa [hidle, hup] using ih h

theorem follow?_idle : t.follow? place [""] = some q ↔ t.isDirectory place = true ∧ place = q := by
  simp [follow?]

/-- A path goes on from the directory that its root leads to; a path of its own does not. -/
theorem follow?_push (hroot : t.follow? (t.start root) (Path.pieces root) = some base)
    (path : String) :
    t.follow? (t.start (Path.push root path)) (Path.pieces (Path.push root path)) =
      t.follow? (if Path.isAbsolute path then [] else base) (Path.pieces path) := by
  cases habs : Path.isAbsolute path with
  | true => rw [Path.push, if_pos habs, start, if_pos habs, if_pos rfl]
  | false =>
    obtain ⟨first, hpush, hstart, hfirst⟩ := Path.pieces_push_cases root habs
    have hbase : t.follow? (t.start root) first = some base := by
      rcases hfirst with heq | heq
      · rw [← heq, hroot]
      · rw [heq, follow?_append, Option.bind_eq_some_iff] at hroot
        obtain ⟨place, hplace, hidle⟩ := hroot
        rw [hplace, (follow?_idle.1 hidle).2]
    rw [start, hstart, ← start, hpush, follow?_append, hbase, Option.bind_some,
      if_neg Bool.false_ne_true]

/-! ## Well-formed trees -/

/-- All that there is lies in a directory. -/
def WellFormed (t : FileTree) : Prop :=
  ∀ place, t.node? place ≠ none → t.isDirectory place.dropLast = true

/-- It is enough to look at what is listed. -/
theorem WellFormed.of_nodes (h : ∀ n ∈ t.nodes, t.isDirectory n.1.dropLast = true) :
    t.WellFormed := by
  intro place hplace
  by_cases hnil : place = []
  · rw [hnil]
    rfl
  · rw [node?, if_neg hnil, ne_eq, List.lookup_eq_none_iff] at hplace
    simp only [bne_iff_ne, ne_eq, not_forall, not_not] at hplace
    obtain ⟨n, hn, rfl⟩ := hplace
    exact h n hn

theorem node?_of_isDirectory (h : t.isDirectory place = true) :
    t.node? place = some .directory := by
  simpa [isDirectory] using h

theorem ne_nil_of_not_isDirectory (h : t.isDirectory place = false) : place ≠ [] := by
  rintro rfl
  simp [isDirectory, node?] at h

theorem WellFormed.dropLast (h : t.WellFormed) (hplace : t.isDirectory place = true) :
    t.isDirectory place.dropLast = true := by
  refine h place ?_
  rw [node?_of_isDirectory hplace]
  simp

/-- All that lies around something is a directory. -/
theorem WellFormed.isDirectory_of_prefix (h : t.WellFormed) (hp : t.node? p ≠ none)
    (hqp : q <+: p) (hne : q ≠ p) : t.isDirectory q = true := by
  induction p using List.reverseRecOn with
  | nil => exact absurd (List.prefix_nil.1 hqp) hne
  | append_singleton p name ih =>
    have hdir := h _ hp
    rw [List.dropLast_concat] at hdir
    rcases List.prefix_concat_iff.1 hqp with heq | hqp
    · exact absurd heq hne
    · by_cases heq : q = p
      · exact heq ▸ hdir
      · refine ih ?_ hqp heq
        rw [node?_of_isDirectory hdir]
        simp

/-- A path leads into a directory. -/
theorem WellFormed.dropLast_of_follow? (h : t.WellFormed)
    (hplace : t.isDirectory place.dropLast = true) (hq : t.follow? place pieces = some q) :
    t.isDirectory q.dropLast = true := by
  induction pieces generalizing place with
  | nil =>
    cases hq
    exact hplace
  | cons piece pieces ih =>
    obtain ⟨hdir, ⟨-, hq⟩ | ⟨-, ⟨-, hq⟩ | ⟨-, -, hq⟩⟩⟩ := follow?_cons_eq_some_iff.1 hq
    · exact ih hplace hq
    · exact ih (h.dropLast hplace) hq
    · exact ih (by rwa [List.dropLast_concat]) hq

theorem WellFormed.dropLast_of_place? (h : t.WellFormed) (hq : t.place? path = some q) :
    t.isDirectory q.dropLast = true := by
  unfold place? at hq
  split at hq
  · cases hpieces : Path.pieces path with
    | nil =>
      rw [Path.pieces, List.map_eq_nil_iff] at hpieces
      exact absurd hpieces (Text.split_ne_nil _ _)
    | cons piece pieces =>
      rw [hpieces] at hq
      have hstart := (follow?_cons_eq_some_iff.1 hq).1
      exact h.dropLast_of_follow? (h.dropLast hstart) hq
  · cases hq

/-- A path leads where it led if no directory is gone. -/
theorem follow?_mono (h : ∀ place, t.isDirectory place = true → t'.isDirectory place = true)
    (hq : t.follow? place pieces = some q) : t'.follow? place pieces = some q := by
  induction pieces generalizing place with
  | nil => exact hq
  | cons piece pieces ih =>
    rw [follow?_cons_eq_some_iff] at hq ⊢
    exact ⟨h place hq.1, hq.2.imp (And.imp_right ih)
      (And.imp_right (Or.imp (And.imp_right ih) (And.imp_right (And.imp_right ih))))⟩

/-- A path that never goes up leads to a file wherever the file is, if it does so anywhere. -/
theorem follow?_of_straight (h : t.WellFormed) (hp : t.node? p ≠ none)
    (hp' : t'.isDirectory p = false) (hstraight : ".." ∉ pieces)
    (hq : t'.follow? place pieces = some p) : t.follow? place pieces = some p := by
  induction pieces generalizing place with
  | nil => exact hq
  | cons piece pieces ih =>
    have hplace := Path.prefix_lead hstraight place
    rw [← eq_lead hq] at hplace
    rw [follow?_cons_eq_some_iff] at hq ⊢
    obtain ⟨hdir, hq⟩ := hq
    have hne : place ≠ p := by
      rintro rfl
      rw [hp'] at hdir
      cases hdir
    have hrest : ".." ∉ pieces := fun hmem => hstraight (List.mem_cons_of_mem piece hmem)
    refine ⟨h.isDirectory_of_prefix hp hplace hne, ?_⟩
    rcases hq with ⟨hidle, hq⟩ | ⟨hidle, ⟨rfl, hq⟩ | ⟨hup, hname, hq⟩⟩
    · exact .inl ⟨hidle, ih hrest hq⟩
    · exact absurd List.mem_cons_self hstraight
    · exact .inr ⟨hidle, .inr ⟨hup, hname, ih hrest hq⟩⟩

/-! ## Guarding a file -/

/-- A well-formed tree with a file at `p`, in which no directory of `first` is gone. -/
structure Guards (t first : FileTree) (p : Place) (text : String) : Prop where
  wellFormed : t.WellFormed
  current : t.current = first.current
  directories : ∀ place, first.isDirectory place = true → t.isDirectory place = true
  file : t.node? p = some (.file text)

namespace Guards

variable {first : FileTree}

theorem refl (h : t.WellFormed) (hfile : t.node? p = some (.file text)) : t.Guards t p text :=
  ⟨h, rfl, fun _ hdir => hdir, hfile⟩

theorem not_isDirectory (h : t.Guards first p text) : t.isDirectory p = false := by
  simp [isDirectory, h.file]

/-- Putting something new into a directory, elsewhere than at the file. -/
theorem put (h : t.Guards first p text) (hnew : t.isDirectory place = false)
    (hparent : t.isDirectory place.dropLast = true) (hne : place ≠ p) (node : FileNode) :
    (t.put place node).Guards first p text := by
  have hnode := t.node?_put (ne_nil_of_not_isDirectory hnew) node
  have hkeep : ∀ q, t.isDirectory q = true → (t.put place node).isDirectory q = true := by
    intro q hq
    have hqne : q ≠ place := by
      rintro rfl
      rw [hnew] at hq
      cases hq
    rw [isDirectory, hnode, if_neg hqne]
    exact hq
  refine ⟨?_, h.current, fun q hq => hkeep q (h.directories q hq), ?_⟩
  · intro q hq
    refine hkeep _ ?_
    by_cases heq : q = place
    · exact heq ▸ hparent
    · rw [hnode, if_neg heq] at hq
      exact h.wellFormed q hq
  · rw [hnode, if_neg (Ne.symm hne)]
    exact h.file

theorem createAlong (h : t.Guards first p text) (place : Place) (pieces : List String) :
    (t.createAlong place pieces).1.Guards first p text := by
  induction pieces generalizing t place with
  | nil => exact h
  | cons piece pieces ih =>
    rw [FileTree.createAlong]
    split
    · exact h
    · next hdir =>
      split
      · exact ih h place
      · split
        · exact ih h place.dropLast
        · split
          · exact h
          · dsimp only
            split
            · next hnone =>
              refine ih (h.put ?_ ?_ ?_ .directory) _
              · simp [isDirectory, hnone]
              · rw [List.dropLast_concat]
                simpa using hdir
              · intro heq
                rw [heq, h.file] at hnone
                cases hnone
            · exact ih h _

theorem createDirs (h : t.Guards first p text) (path : String) :
    (t.createDirs path).1.Guards first p text := by
  unfold FileTree.createDirs
  split
  · exact h
  · split
    · exact h.createAlong _ _
    · exact h

theorem createSome (h : t.Guards first p text) (path : String) (progress : Nat) :
    (t.createSome path progress).Guards first p text := by
  unfold FileTree.createSome
  split
  · exact h.createAlong _ _
  · exact h

theorem writeText (h : t.Guards first p text) (hpath : t.place? path ≠ some p)
    (new : String) : (t.writeText path new).1.Guards first p text := by
  unfold FileTree.writeText
  split
  · exact h
  · next place hplace =>
    split
    · exact h
    · next hnew =>
      refine h.put (by simpa using hnew) (h.wellFormed.dropLast_of_place? hplace) ?_ _
      rintro rfl
      exact hpath hplace

/-! ## Paths below a root -/

theorem start_eq (h : t.Guards first p text) (path : String) : t.start path = first.start path := by
  rw [start, start, h.current]

theorem place? (h : t.Guards first p text) (hq : first.place? path = some q) :
    t.place? path = some q := by
  unfold FileTree.place? at hq ⊢
  split at hq
  · next hvalid =>
    rw [if_pos hvalid, h.start_eq]
    exact follow?_mono h.directories hq
  · cases hq

theorem isThere (h : t.Guards first p text) (hp : t.place? path = some p) :
    t.isThere path = true := by
  rw [FileTree.isThere, hp, Option.bind_some, h.file]
  rfl

section

variable (hroot : first.follow? (first.start root) (Path.pieces root) = some base)
include hroot

theorem follow?_root (h : t.Guards first p text) :
    t.follow? (t.start root) (Path.pieces root) = some base := by
  rw [h.start_eq]
  exact follow?_mono h.directories hroot

/-- Where a path below the root leads, if it leads anywhere. -/
theorem eq_lead_of_place? (h : t.Guards first p text)
    (hq : t.place? (Path.push root path) = some q) :
    q = Path.lead (if Path.isAbsolute path then [] else base) (Path.pieces path) := by
  unfold FileTree.place? at hq
  split at hq
  · rw [follow?_push (h.follow?_root hroot)] at hq
    exact eq_lead hq
  · cases hq

/-- A path that never goes up leads to the file in every tree that has it, if it does so in one. -/
theorem place?_of_straight (h : t.Guards first p text) (h' : t'.Guards first p text)
    (hstraight : ".." ∉ Path.pieces path) (hq : t'.place? (Path.push root path) = some p) :
    t.place? (Path.push root path) = some p := by
  unfold FileTree.place? at hq ⊢
  split at hq
  · next hvalid =>
    have hp : t.node? p ≠ none := by
      rw [h.file]
      simp
    rw [if_pos hvalid]
    rw [follow?_push (h'.follow?_root hroot)] at hq
    rw [follow?_push (h.follow?_root hroot)]
    exact follow?_of_straight h.wellFormed hp h'.not_isDirectory hstraight hq
  · cases hq

end

end Guards
end FileTree
end EntityGen
