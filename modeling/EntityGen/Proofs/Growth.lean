import EntityGen.Proofs.Path

/-! # Trees of files that grow

Making directories and writing files takes nothing away: what was there is there, a directory is a
directory and a file is a file (`FileTree.Grows`). So a path that leads somewhere goes on leading
there, and directories that were made once are not made again (`createDirs_again`). A path may come
to lead somewhere only later, when it goes up out of a directory that is not there yet; one that
does not is settled (`FileTree.Settles`), and leads to whatever is at its end at any time
(`place?_of_settles`). -/

namespace EntityGen

namespace FileTree

variable {t s u : FileTree} {place p q : Place} {pieces : List String} {path text : String}

theorem eq_resolve (h : t.place? path = some q) : q = Path.resolve t.current path := by
  unfold place? at h
  split at h
  · exact eq_lead h
  · cases h

/-! ## Growth -/

/-- Nothing of `t` is gone in `s`. -/
structure Grows (t s : FileTree) : Prop where
  current : s.current = t.current
  wellFormed : t.WellFormed → s.WellFormed
  kept : ∀ place, t.node? place ≠ none →
    s.node? place ≠ none ∧ s.isDirectory place = t.isDirectory place

theorem Grows.refl (t : FileTree) : t.Grows t := ⟨rfl, id, fun _ h => ⟨h, rfl⟩⟩

theorem Grows.trans (hs : t.Grows s) (hu : s.Grows u) : t.Grows u := by
  refine ⟨hu.current.trans hs.current, hu.wellFormed ∘ hs.wellFormed, fun place h => ?_⟩
  obtain ⟨hnode, hdir⟩ := hs.kept place h
  exact ⟨(hu.kept place hnode).1, (hu.kept place hnode).2.trans hdir⟩

theorem Grows.isDirectory (h : t.Grows s) (hplace : t.isDirectory place = true) :
    s.isDirectory place = true := by
  have hnode : t.node? place ≠ none := by
    rw [node?_of_isDirectory hplace]
    simp
  rw [(h.kept place hnode).2, hplace]

theorem Grows.not_isDirectory (h : t.Grows s) (hplace : t.node? place = some (.file text)) :
    s.isDirectory place = false := by
  rw [(h.kept place (by simp [hplace])).2]
  simp [FileTree.isDirectory, hplace]

theorem Grows.follow? (h : t.Grows s) (hq : t.follow? place pieces = some q) :
    s.follow? place pieces = some q := follow?_mono (fun _ hdir => h.isDirectory hdir) hq

theorem Grows.start (h : t.Grows s) (path : String) : s.start path = t.start path := by
  rw [FileTree.start, FileTree.start, h.current]

theorem Grows.place? (h : t.Grows s) (hq : t.place? path = some q) : s.place? path = some q := by
  unfold FileTree.place? at hq ⊢
  split at hq
  · next hpath =>
    rw [if_pos hpath, h.start]
    exact h.follow? hq
  · cases hq

theorem Grows.isThere (h : t.Grows s) (hpath : t.isThere path = true) : s.isThere path = true := by
  obtain ⟨node, hnode⟩ := Option.isSome_iff_exists.1 hpath
  obtain ⟨place, hplace, hnode⟩ := Option.bind_eq_some_iff.1 hnode
  rw [FileTree.isThere, h.place? hplace, Option.bind_some, Option.isSome_iff_ne_none]
  exact (h.kept place (by simp [hnode])).1

/-- Putting a directory where nothing is, or a file where no directory is. -/
theorem Grows.put {node : FileNode} (hnew : t.isDirectory place = false)
    (hnode : t.node? place = none ∨ node ≠ .directory)
    (hparent : t.WellFormed → t.isDirectory place.dropLast = true) :
    t.Grows (t.put place node) := by
  have hput := t.node?_put (ne_nil_of_not_isDirectory hnew) node
  have hkept : ∀ q, t.node? q ≠ none →
      (t.put place node).node? q ≠ none ∧ (t.put place node).isDirectory q = t.isDirectory q := by
    intro q hq
    rw [FileTree.isDirectory, FileTree.isDirectory, hput]
    split
    · next heq =>
      subst heq
      rw [FileTree.isDirectory] at hnew
      rw [hnew]
      simpa using hnode.resolve_left hq
    · exact ⟨hq, rfl⟩
  refine ⟨rfl, fun h q hq => ?_, hkept⟩
  have hdir : t.isDirectory q.dropLast = true := by
    rw [hput] at hq
    split at hq
    · next heq => exact heq ▸ hparent h
    · exact h q hq
  have hnode : t.node? q.dropLast ≠ none := by
    rw [node?_of_isDirectory hdir]
    simp
  rw [(hkept _ hnode).2, hdir]

/-! ## Making directories -/

/-- One step along pieces that directories are made for. -/
theorem createAlong_cons (t : FileTree) (place : Place) (piece : String) (pieces : List String) :
    t.createAlong place (piece :: pieces) =
      if t.isDirectory place = false then (t, false)
      else if piece = "" ∨ piece = "." then t.createAlong place pieces
      else if piece = ".." then t.createAlong place.dropLast pieces
      else if isName piece = false then (t, false)
      else if t.node? (place ++ [piece]) = none then
        (t.put (place ++ [piece]) .directory).createAlong (place ++ [piece]) pieces
      else t.createAlong (place ++ [piece]) pieces := by
  rw [createAlong]
  dsimp only
  cases t.isDirectory place <;> cases isName piece <;> cases t.node? (place ++ [piece]) <;> simp

theorem grows_put_directory {name : String} (hplace : t.isDirectory place = true)
    (hnone : t.node? (place ++ [name]) = none) :
    t.Grows (t.put (place ++ [name]) .directory) :=
  .put (by simp [isDirectory, hnone]) (.inl hnone) fun _ => by rwa [List.dropLast_concat]

theorem grows_createAlong (t : FileTree) (place : Place) (pieces : List String) :
    t.Grows (t.createAlong place pieces).1 := by
  induction pieces generalizing t place with
  | nil => exact .refl t
  | cons piece pieces ih =>
    rw [createAlong_cons]
    split
    · exact .refl t
    · next hdir =>
      split
      · exact ih t place
      · split
        · exact ih t place.dropLast
        · split
          · exact .refl t
          · split
            · next hnone => exact (grows_put_directory (by simpa using hdir) hnone).trans (ih _ _)
            · exact ih t _

theorem grows_of_createAlong {done : Bool} (h : t.createAlong place pieces = (s, done)) :
    t.Grows s := by
  have hgrows := grows_createAlong t place pieces
  rwa [h] at hgrows

/-- Nothing changes but that directories are made on the way where nothing is. -/
theorem node?_createAlong (t : FileTree) (place : Place) (pieces : List String) (q : Place) :
    (t.createAlong place pieces).1.node? q = t.node? q ∨
      q ∈ Path.way place pieces ∧ t.node? q = none ∧
        (t.createAlong place pieces).1.node? q = some .directory := by
  induction pieces generalizing t place with
  | nil => exact .inl rfl
  | cons piece pieces ih =>
    rw [createAlong_cons]
    split
    · exact .inl rfl
    · split
      · next hidle =>
        have hway : Path.way place pieces ⊆ Path.way place (piece :: pieces) := by
          simp [Path.way, hidle]
        exact (ih t place).imp_right (And.imp_left (hway ·))
      · next hidle =>
        split
        · next hup =>
          have hway : Path.way place.dropLast pieces ⊆ Path.way place (piece :: pieces) := by
            simp [Path.way, hup]
          exact (ih t place.dropLast).imp_right (And.imp_left (hway ·))
        · next hup =>
          have hway : Path.way (place ++ [piece]) pieces ⊆ Path.way place (piece :: pieces) := by
            simp only [not_or] at hidle
            simp [Path.way, hidle, hup]
          split
          · exact .inl rfl
          · split
            · next hnone =>
              have hput := t.node?_put (List.concat_ne_nil piece place) .directory q
              rcases ih (t.put (place ++ [piece]) .directory) (place ++ [piece]) with
                h | ⟨hq, h, hdir⟩
              · rw [h, hput]
                split
                · next heq => exact .inr ⟨hway (heq ▸ Path.mem_way_self _ _), heq ▸ hnone, rfl⟩
                · exact .inl rfl
              · rw [hput] at h
                split at h
                · cases h
                · exact .inr ⟨hway hq, h, hdir⟩
            · exact (ih t _).imp_right (And.imp_left (hway ·))

/-- Once directories are made along pieces, the pieces lead through directories only. -/
theorem follow?_createAlong (h : t.createAlong place pieces = (s, true)) :
    s.follow? place pieces = some (Path.lead place pieces) ∧
      ∀ q ∈ Path.way place pieces, s.isDirectory q = true := by
  induction pieces generalizing t place with
  | nil =>
    rw [createAlong, Prod.mk.injEq] at h
    obtain ⟨rfl, hdir⟩ := h
    exact ⟨rfl, by simpa [Path.way] using hdir⟩
  | cons piece pieces ih =>
    have hgrows := grows_of_createAlong h
    rw [createAlong_cons] at h
    split at h
    · cases h
    · next hdir =>
      have hdir : s.isDirectory place = true := hgrows.isDirectory (by simpa using hdir)
      rw [follow?_cons_eq_some_iff, Path.lead, Path.way]
      split at h
      · next hidle =>
        obtain ⟨hfollow, hway⟩ := ih h
        exact ⟨⟨hdir, .inl ⟨hidle, by simpa [hidle] using hfollow⟩⟩,
          by simpa [hidle, hdir] using hway⟩
      · next hidle =>
        split at h
        · next hup =>
          obtain ⟨hfollow, hway⟩ := ih h
          exact ⟨⟨hdir, .inr ⟨hidle, .inl ⟨hup, by simpa [hidle, hup] using hfollow⟩⟩⟩,
            by simpa [hidle, hup, hdir] using hway⟩
        · next hup =>
          have hnext : isName piece = true ∧
              ∃ t' : FileTree, t'.createAlong (place ++ [piece]) pieces = (s, true) := by
            split at h
            · cases h
            · next hname =>
              refine ⟨by simpa using hname, ?_⟩
              split at h
              · exact ⟨_, h⟩
              · exact ⟨_, h⟩
          obtain ⟨hname, t', h'⟩ := hnext
          obtain ⟨hfollow, hway⟩ := ih h'
          exact ⟨⟨hdir, .inr ⟨hidle, .inr ⟨hup, hname, by simpa [hidle, hup] using hfollow⟩⟩⟩,
            by simpa [hidle, hup, hdir] using hway⟩

/-- A path leads to its end through directories only. -/
theorem isDirectory_of_mem_way (h : t.follow? place pieces = some q)
    (hp : p ∈ Path.way place pieces) : p = q ∨ t.isDirectory p = true := by
  induction pieces generalizing place with
  | nil =>
    cases h
    exact .inl (List.mem_singleton.1 hp)
  | cons piece pieces ih =>
    rw [Path.way, List.mem_cons] at hp
    obtain ⟨hdir, hrest⟩ := follow?_cons_eq_some_iff.1 h
    rcases hp with rfl | hp
    · exact .inr hdir
    · rcases hrest with ⟨hidle, h⟩ | ⟨hidle, ⟨hup, h⟩ | ⟨hup, -, h⟩⟩
      · exact ih h (by simpa [hidle] using hp)
      · exact ih h (by simpa [hidle, hup] using hp)
      · exact ih h (by simpa [hidle, hup] using hp)

/-- Along pieces that lead through directories nothing is made. -/
theorem createAlong_of_follow? (h : t.follow? place pieces = some q)
    (hq : t.isDirectory q = true) : t.createAlong place pieces = (t, true) := by
  induction pieces generalizing place with
  | nil =>
    cases h
    rw [createAlong, hq]
  | cons piece pieces ih =>
    rw [createAlong_cons]
    obtain ⟨hdir, ⟨hidle, h⟩ | ⟨hidle, ⟨hup, h⟩ | ⟨hup, hname, h⟩⟩⟩ := follow?_cons_eq_some_iff.1 h
    · simpa [hdir, hidle] using ih h
    · simpa [hdir, hidle, hup] using ih h
    · have hthere : t.node? (place ++ [piece]) ≠ none := by
        have hnext : t.isDirectory (place ++ [piece]) = true := by
          cases pieces with
          | nil =>
            cases h
            exact hq
          | cons next pieces => exact (follow?_cons_eq_some_iff.1 h).1
        rw [node?_of_isDirectory hnext]
        simp
      simpa [hdir, hidle, hup, hname, hthere] using ih h

theorem grows_createDirs (t : FileTree) (path : String) : t.Grows (t.createDirs path).1 := by
  unfold createDirs
  split
  · exact .refl t
  · split
    · exact grows_createAlong _ _ _
    · exact .refl t

theorem grows_createSome (t : FileTree) (path : String) (progress : Nat) :
    t.Grows (t.createSome path progress) := by
  unfold createSome
  split
  · exact grows_createAlong _ _ _
  · exact .refl t

theorem node?_createDirs_parent (t : FileTree) (path : String) (q : Place) :
    (t.createDirs (Path.parent path)).1.node? q = t.node? q ∨
      q ∈ Path.passage t.current path ∧ t.node? q = none ∧
        (t.createDirs (Path.parent path)).1.node? q = some .directory := by
  unfold createDirs Path.passage
  split
  · exact .inl rfl
  · split
    · exact t.node?_createAlong _ _ q
    · exact .inl rfl

/-- The same if the directories around a path are made in part. -/
theorem node?_createSome_parent (t : FileTree) (path : String) (progress : Nat) (q : Place) :
    (t.createSome (Path.parent path) progress).node? q = t.node? q ∨
      q ∈ Path.passage t.current path ∧ t.node? q = none ∧
        (t.createSome (Path.parent path) progress).node? q = some .directory := by
  unfold createSome Path.passage
  split
  · next hpath =>
    have hne : Path.parent path ≠ "" := by
      rintro hempty
      simp [isPath, hempty] at hpath
    rw [if_neg hne]
    refine (t.node?_createAlong _ _ q).imp_right (And.imp_left fun hq => ?_)
    exact Path.mem_way_of_start (List.take_prefix progress _) hq
  · exact .inl rfl

/-- All directories around a path are there once they are made. -/
theorem isDirectory_of_mem_passage (h : t.createDirs (Path.parent path) = (s, true))
    (hq : q ∈ Path.passage t.current path) : s.isDirectory q = true := by
  unfold createDirs at h
  unfold Path.passage at hq
  split at h
  · next hempty => simp [hempty] at hq
  · next hempty =>
    rw [if_neg hempty] at hq
    split at h
    · exact (follow?_createAlong h).2 q hq
    · cases h

/-- Directories that were made are not made again. -/
theorem createDirs_again (h : t.createDirs path = (s, true)) (hu : s.Grows u) :
    u.createDirs path = (u, true) := by
  have hs := grows_createDirs t path
  rw [h] at hs
  unfold createDirs at h ⊢
  split at h
  · next hempty => rw [if_pos hempty]
  · next hempty =>
    split at h
    · next hpath =>
      obtain ⟨hfollow, hway⟩ := follow?_createAlong h
      rw [if_neg hempty, if_pos hpath, (hs.trans hu).start]
      exact createAlong_of_follow? (hu.follow? hfollow)
        (hu.isDirectory (hway _ (Path.lead_mem_way _ _)))
    · cases h

/-! ## Writing -/

theorem writeText_eq_true_iff :
    t.writeText path text = (s, true) ↔ ∃ q, t.place? path = some q ∧ t.isDirectory q = false ∧
      s = t.put q (.file text) := by
  unfold writeText
  cases hplace : t.place? path with
  | none => simp
  | some q =>
    cases hdir : t.isDirectory q with
    | true => simp [hdir]
    | false =>
      simp only [hdir, Bool.false_eq_true, if_false]
      constructor
      · intro h
        exact ⟨q, rfl, hdir, (Prod.mk.inj h).1.symm⟩
      · rintro ⟨p, hp, -, rfl⟩
        cases hp
        rfl

theorem grows_writeText (h : t.writeText path text = (s, true)) : t.Grows s := by
  obtain ⟨q, hq, hdir, rfl⟩ := writeText_eq_true_iff.1 h
  exact .put hdir (.inr (by simp)) fun hwf => hwf.dropLast_of_place? hq

/-! ## Settled paths -/

/-- A path goes up, if at all, along directories that are there. -/
def Settles (t : FileTree) (path : String) : Prop :=
  ∃ first rest, Path.pieces path = first ++ rest ∧
    (∃ base, t.follow? (t.start path) first = some base) ∧ ".." ∉ rest

theorem settles_of_straight (h : ".." ∉ Path.pieces path) : t.Settles path :=
  ⟨[], Path.pieces path, rfl, ⟨t.start path, rfl⟩, h⟩

/-- Below a directory that is there, a path that does not go up is settled. -/
theorem settles_push {root : String} {base : Place}
    (hroot : t.follow? (t.start root) (Path.pieces root) = some base)
    (h : ".." ∉ Path.pieces path) : t.Settles (Path.push root path) := by
  cases habs : Path.isAbsolute path with
  | true =>
    rw [Path.push, if_pos habs]
    exact settles_of_straight h
  | false =>
    obtain ⟨first, hpush, hstart, ⟨idle, hpieces⟩, -⟩ := Path.pieces_push root habs
    rw [← hpieces, follow?_append, Option.bind_eq_some_iff] at hroot
    obtain ⟨place, hplace, -⟩ := hroot
    refine ⟨first, Path.pieces path, hpush, ⟨place, ?_⟩, h⟩
    rw [start, hstart]
    exact hplace

/-- A settled path leads to what is at its end as soon as there is something. -/
theorem place?_of_settles (h : t.Settles path) (hs : t.Grows s) (hu : s.Grows u)
    (hwf : s.WellFormed) (hp : s.node? p ≠ none) (hfile : u.isDirectory p = false)
    (hplace : u.place? path = some p) : s.place? path = some p := by
  obtain ⟨first, rest, hpieces, ⟨base, hbase⟩, hrest⟩ := h
  unfold place? at hplace ⊢
  split at hplace
  · next hpath =>
    rw [if_pos hpath]
    rw [hpieces, follow?_append] at hplace ⊢
    rw [hu.start, hs.start, (hs.trans hu).follow? hbase, Option.bind_some] at hplace
    rw [hs.start, hs.follow? hbase, Option.bind_some]
    exact follow?_of_straight hwf hp hfile hrest hplace
  · cases hplace

end FileTree
end EntityGen
