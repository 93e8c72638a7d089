import EntityGen.Diagnosed
import EntityGen.Tree
import Mathlib.Data.List.Basic

/-! # Values of trees

What mapping and adding do to the nodes of a tree, and what a tree of results says of the tree of
inputs it was computed from (`map_of_mapLastFirst`, `mem_values_of_mapLastFirst`). -/

namespace EntityGen

/-! ## Results of diagnosed computations -/

namespace Diagnosed

variable {α β γ : Type}

theorem result_pure (value : α) : (pure value : Diagnosed α).result = .ok value := rfl

@[simp] theorem result_ofExcept (x : Except GenerationError α) : (ofExcept x).result = x := rfl

/-- A computation in two parts gives a result exactly if both do. -/
theorem result_bind_eq_ok {x : Diagnosed α} {f : α → Diagnosed β} {b : β} :
    (x >>= f).result = .ok b ↔ ∃ a, x.result = .ok a ∧ (f a).result = .ok b := by
  cases hx : x.result with
  | error e => simp [bind_error hx]
  | ok a => simp [bind_ok hx]

/-- A computation in two parts ends with an error exactly if one of them does. -/
theorem result_bind_eq_error {x : Diagnosed α} {f : α → Diagnosed β} {e : GenerationError} :
    (x >>= f).result = .error e ↔
      x.result = .error e ∨ ∃ a, x.result = .ok a ∧ (f a).result = .error e := by
  cases hx : x.result with
  | error e' => simp [bind_error hx]
  | ok a => simp [bind_ok hx]

theorem exists_of_toOption {x : Diagnosed α} {f : α → β} {b : β}
    (h : x.result.toOption.map f = some b) : ∃ a, x.result = .ok a ∧ f a = b := by
  cases hx : x.result with
  | error e =>
    rw [hx] at h
    cases h
  | ok a =>
    rw [hx] at h
    exact ⟨a, rfl, Option.some.inj h⟩

theorem exists_of_isOk {x : Diagnosed α} (h : x.result.isOk = true) : ∃ a, x.result = .ok a := by
  cases hx : x.result with
  | error e =>
    rw [hx] at h
    cases h
  | ok a => exact ⟨a, rfl⟩

theorem warnings_bind_eq_nil {x : Diagnosed α} {f : α → Diagnosed β} (hx : x.warnings = [])
    (hf : ∀ a, (f a).warnings = []) : (x >>= f).warnings = [] := by
  cases h : x.result with
  | error e => rw [bind_error h, hx]
  | ok a => rw [bind_ok h, hx, hf, List.append_nil]

theorem result_muted (x : Diagnosed α) : x.muted.result = x.result := rfl

theorem bind_assoc' (x : Diagnosed α) (f : α → Diagnosed β) (g : β → Diagnosed γ) :
    x >>= f >>= g = x >>= fun a => f a >>= g := by
  cases h : x.result with
  | error e =>
    rw [bind_error h, bind_error h]
    exact bind_error rfl
  | ok a =>
    rw [bind_ok h, bind_ok h]
    cases h' : (f a).result with
    | error e =>
      rw [bind_error h']
      exact bind_error rfl
    | ok b =>
      rw [bind_ok h']
      refine (bind_ok rfl).trans ?_
      simp only [List.append_assoc]

instance : LawfulMonad Diagnosed := LawfulMonad.mk' Diagnosed
  (fun x => by
    show x >>= pure = x
    cases h : x.result with
    | error e => rw [bind_error h, ← h]
    | ok a => rw [bind_ok h, pure_def, List.append_nil, List.append_nil, ← h])
  (fun a f => by rw [bind_ok (result_pure a)]; rfl)
  bind_assoc'

/-- What comes after a computation matters for its result only. -/
theorem bind_congr_ok {x : Diagnosed α} {f f' : α → Diagnosed β}
    (h : ∀ a, x.result = .ok a → f a = f' a) : x >>= f = x >>= f' := by
  cases hx : x.result with
  | error e => rw [bind_error hx, bind_error hx]
  | ok a => rw [bind_ok hx, bind_ok hx, h a hx]

theorem muted_map (f : α → β) (x : Diagnosed α) : (f <$> x).muted = f <$> x.muted := by
  show (x >>= (pure ∘ f)).muted = x.muted >>= (pure ∘ f)
  cases h : x.result with
  | error e =>
    rw [bind_error h]
    exact (bind_error (x := x.muted) h).symm
  | ok a =>
    rw [bind_ok h]
    exact (bind_ok (x := x.muted) (f := pure ∘ f) h).symm

end Diagnosed

namespace Tree

variable {α β γ : Type}

/-- What holds of a node whenever it holds of its children holds of every tree. -/
theorem induction {P : Tree α → Prop} (h : ∀ v ts, (∀ t ∈ ts, P t) → P (node v ts)) :
    ∀ t, P t
  | node v ts => h v ts fun t _ => induction h t

/-! ## Nodes -/

theorem mem_values_iff {t : Tree α} {v : α} :
    v ∈ t.values ↔ v = t.value ∨ ∃ t' ∈ t.children, v ∈ t'.values := by
  cases t
  simp

theorem value_mem_values (t : Tree α) : t.value ∈ t.values := mem_values_iff.2 (.inl rfl)

theorem mem_subtrees_iff {t s : Tree α} :
    s ∈ t.subtrees ↔ s = t ∨ ∃ t' ∈ t.children, s ∈ t'.subtrees := by
  cases t
  simp

theorem length_values (t : Tree α) : t.values.length = t.size := by simp [values, size]

theorem size_node (v : α) (ts : List (Tree α)) :
    (node v ts).size = (ts.flatMap values).length + 1 := by
  rw [← length_values, values_node, List.length_cons]

theorem values_map (f : α → β) (t : Tree α) : (t.map f).values = t.values.map f := by
  induction t using induction with
  | h v ts ih =>
    rw [map_node, values_node, values_node, List.map_cons, List.flatMap_map, List.map_flatMap]
    exact congrArg _ (List.flatMap_congr ih)

theorem values_mapWithChildren (f : α → List α → β) (t : Tree α) :
    (t.mapWithChildren f).values = t.subtrees.map fun u => f u.value (u.children.map value) := by
  induction t using induction with
  | h v ts ih =>
    rw [mapWithChildren_node, values_node, subtrees_node, List.map_cons, List.flatMap_map,
      List.map_flatMap]
    exact congrArg _ (List.flatMap_congr ih)

theorem subtrees_map (f : α → β) (t : Tree α) : (t.map f).subtrees = t.subtrees.map (map f) := by
  induction t using induction with
  | h v ts ih =>
    rw [map_node, subtrees_node, subtrees_node, List.map_cons, map_node, List.flatMap_map,
      List.map_flatMap]
    exact congrArg _ (List.flatMap_congr ih)

theorem map_map (f : α → β) (g : β → γ) (t : Tree α) : (t.map f).map g = t.map (g ∘ f) := by
  induction t using induction with
  | h v ts ih =>
    simp only [map_node, List.map_map, Function.comp_apply]
    exact congrArg _ (List.map_congr_left ih)

theorem map_congr {f g : α → β} {t : Tree α} (h : ∀ v ∈ t.values, f v = g v) :
    t.map f = t.map g := by
  induction t using induction with
  | h v ts ih =>
    rw [map_node, map_node, h v (value_mem_values (node v ts))]
    refine congrArg (node (g v)) (List.map_congr_left fun t ht => ?_)
    exact ih t ht fun w hw => h w (mem_values_iff.2 (.inr ⟨t, ht, hw⟩))

theorem map_eq_self {f : α → α} {t : Tree α} (h : ∀ v ∈ t.values, f v = v) : t.map f = t := by
  induction t using induction with
  | h v ts ih =>
    rw [map_node, h v (value_mem_values (node v ts))]
    refine congrArg (node v) ((List.map_congr_left fun t ht => ?_).trans (List.map_id ts))
    exact ih t ht fun w hw => h w (mem_values_iff.2 (.inr ⟨t, ht, hw⟩))

theorem map_mapWithChildren {f : α → List α → β} {g : β → γ} {h : α → γ}
    (hgh : ∀ v ws, g (f v ws) = h v) (t : Tree α) : (t.mapWithChildren f).map g = t.map h := by
  induction t using induction with
  | h v ts ih =>
    rw [mapWithChildren_node, map_node, map_node, hgh, List.map_map]
    exact congrArg _ (List.map_congr_left ih)

@[simp] theorem value_map (f : α → β) (t : Tree α) : (t.map f).value = f t.value := by
  cases t
  simp

@[simp] theorem children_map (f : α → β) (t : Tree α) :
    (t.map f).children = t.children.map (map f) := by
  cases t
  simp

theorem mapWithChildren_map (f : α → β) (g : β → List β → γ) (t : Tree α) :
    (t.map f).mapWithChildren g = t.mapWithChildren fun v ws => g (f v) (ws.map f) := by
  induction t using induction with
  | h v ts ih =>
    have hvalues : (ts.map (map f)).map value = (ts.map value).map f := by
      simp [Function.comp_def]
    rw [map_node, mapWithChildren_node, mapWithChildren_node, hvalues]
    refine congrArg _ ?_
    rw [List.map_map]
    exact List.map_congr_left ih

@[simp] theorem value_mapWithChildren (f : α → List α → β) (t : Tree α) :
    (t.mapWithChildren f).value = f t.value (t.children.map value) := by
  cases t
  simp

@[simp] theorem value_mapRoot (f : α → α) (t : Tree α) : (t.mapRoot f).value = f t.value := rfl

@[simp] theorem children_mapRoot (f : α → α) (t : Tree α) : (t.mapRoot f).children = t.children :=
  rfl

theorem map_mapRoot {f : α → α} {g : α → β} {t : Tree α} (h : g (f t.value) = g t.value) :
    (t.mapRoot f).map g = t.map g := by
  cases t
  rw [mapRoot, map_node, map_node, h]
  rfl

@[simp] theorem value_addChild (t child : Tree α) : (t.addChild child).value = t.value := rfl

@[simp] theorem children_addChild (t child : Tree α) :
    (t.addChild child).children = t.children ++ [child] := rfl

theorem mem_values_addChild {t child : Tree α} {v : α} :
    v ∈ (t.addChild child).values ↔ v ∈ t.values ∨ v ∈ child.values := by
  rw [mem_values_iff, mem_values_iff (t := t)]
  simp only [value_addChild, children_addChild, List.mem_append, List.mem_singleton, or_and_right,
    exists_or, exists_eq_left, or_assoc]

theorem mem_subtrees_addChild {t child u : Tree α} :
    u ∈ (t.addChild child).subtrees ↔
      u = t.addChild child ∨ (∃ t' ∈ t.children, u ∈ t'.subtrees) ∨ u ∈ child.subtrees := by
  rw [mem_subtrees_iff]
  simp only [children_addChild, List.mem_append, List.mem_singleton, or_and_right, exists_or,
    exists_eq_left]

/-- Below the root a tree with a new root is as it was. -/
theorem children_of_mem_subtrees_mapRoot {f : α → α} {t u : Tree α}
    (h : u ∈ (t.mapRoot f).subtrees) : ∃ u' ∈ t.subtrees, u.children = u'.children := by
  rcases mem_subtrees_iff.1 h with rfl | ⟨t', ht', hu⟩
  · exact ⟨t, mem_subtrees_iff.2 (.inl rfl), rfl⟩
  · exact ⟨u, mem_subtrees_iff.2 (.inr ⟨t', ht', hu⟩), rfl⟩

/-! ## Trees of results -/

section
variable {δ : Type} {m : Type → Type} [Monad m] [LawfulMonad m] {f : α → m β} {g : γ → m δ}
  {i : α → γ} {o : β → δ}

mutual

theorem mapLastFirst_map : ∀ {t : Tree α}, (∀ v ∈ t.values, g (i v) = o <$> f v) →
    (t.map i).mapLastFirst g = map o <$> t.mapLastFirst f
  | node v ts, h => by
    have hts : mapLastFirstAll g (ts.map (map i)) = List.map (map o) <$> mapLastFirstAll f ts :=
      mapLastFirstAll_map fun t ht w hw => h w (mem_values_iff.2 (.inr ⟨t, ht, hw⟩))
    rw [map_node, mapLastFirst, mapLastFirst, h v (value_mem_values (node v ts)), hts]
    simp only [map_bind, bind_map_left, map_pure, map_node]

/-- Where the visit of a node goes along with new values before and after it, so does the visit of
whole trees. -/
theorem mapLastFirstAll_map : ∀ {ts : List (Tree α)},
    (∀ t ∈ ts, ∀ v ∈ t.values, g (i v) = o <$> f v) →
      mapLastFirstAll g (ts.map (map i)) = List.map (map o) <$> mapLastFirstAll f ts
  | [], _ => by simp only [List.map_nil, mapLastFirstAll, map_pure]
  | t :: ts, h => by
    have ht := mapLastFirst_map (h t List.mem_cons_self)
    have hts := mapLastFirstAll_map fun u hu => h u (List.mem_cons_of_mem t hu)
    rw [List.map_cons, mapLastFirstAll, mapLastFirstAll, ht, hts]
    simp only [map_bind, bind_map_left, map_pure, List.map_cons]

end
end

section
variable {f : α → Diagnosed β} (back : β → α)

/-- The result of a tree is made of those of the root and of the trees below. -/
theorem exists_of_mapLastFirst {v : α} {ts : List (Tree α)} {t' : Tree β}
    (h : ((node v ts).mapLastFirst f).result = .ok t') :
    ∃ w us, (f v).result = .ok w ∧ (mapLastFirstAll f ts).result = .ok us ∧ t' = node w us := by
  rw [mapLastFirst] at h
  obtain ⟨w, hw, h⟩ := Diagnosed.result_bind_eq_ok.1 h
  obtain ⟨us, hus, h⟩ := Diagnosed.result_bind_eq_ok.1 h
  cases h
  exact ⟨w, us, hw, hus, rfl⟩

theorem exists_of_mapLastFirstAll {t : Tree α} {ts : List (Tree α)} {ts' : List (Tree β)}
    (h : (mapLastFirstAll f (t :: ts)).result = .ok ts') :
    ∃ u us, (t.mapLastFirst f).result = .ok u ∧ (mapLastFirstAll f ts).result = .ok us ∧
      ts' = u :: us := by
  rw [mapLastFirstAll] at h
  obtain ⟨us, hus, h⟩ := Diagnosed.result_bind_eq_ok.1 h
  obtain ⟨u, hu, h⟩ := Diagnosed.result_bind_eq_ok.1 h
  cases h
  exact ⟨u, us, hu, hus, rfl⟩

mutual

theorem map_of_mapLastFirst (hback : ∀ a b, (f a).result = .ok b → back b = a) :
    ∀ {t : Tree α} {t' : Tree β}, (t.mapLastFirst f).result = .ok t' → t'.map back = t
  | node v ts, t', h => by
    obtain ⟨w, ts', hw, hts, rfl⟩ := exists_of_mapLastFirst h
    rw [map_node, hback v w hw, map_of_mapLastFirstAll hback hts]

/-- The results of trees, taken back, are the trees. -/
theorem map_of_mapLastFirstAll (hback : ∀ a b, (f a).result = .ok b → back b = a) :
    ∀ {ts : List (Tree α)} {ts' : List (Tree β)}, (mapLastFirstAll f ts).result = .ok ts' →
      ts'.map (map back) = ts
  | [], ts', h => by
    rw [mapLastFirstAll] at h
    cases h
    rfl
  | t :: ts, ts', h => by
    obtain ⟨u, us, hu, hus, rfl⟩ := exists_of_mapLastFirstAll h
    rw [List.map_cons, map_of_mapLastFirst hback hu, map_of_mapLastFirstAll hback hus]

end

mutual

theorem mem_values_of_mapLastFirst :
    ∀ {t : Tree α} {t' : Tree β}, (t.mapLastFirst f).result = .ok t' →
      ∀ b ∈ t'.values, ∃ a ∈ t.values, (f a).result = .ok b
  | node v ts, t', h => by
    obtain ⟨w, ts', hw, hts, rfl⟩ := exists_of_mapLastFirst h
    intro b hb
    rw [values_node] at hb ⊢
    rcases List.mem_cons.1 hb with rfl | hb
    · exact ⟨v, List.mem_cons_self, hw⟩
    · obtain ⟨a, ha, hab⟩ := mem_values_of_mapLastFirstAll hts b hb
      exact ⟨a, List.mem_cons_of_mem _ ha, hab⟩

/-- Every value in the results of trees is the result of a value in them. -/
theorem mem_values_of_mapLastFirstAll :
    ∀ {ts : List (Tree α)} {ts' : List (Tree β)}, (mapLastFirstAll f ts).result = .ok ts' →
      ∀ b ∈ ts'.flatMap values, ∃ a ∈ ts.flatMap values, (f a).result = .ok b
  | [], ts', h => by
    rw [mapLastFirstAll] at h
    cases h
    simp
  | t :: ts, ts', h => by
    obtain ⟨u, us, hu, hus, rfl⟩ := exists_of_mapLastFirstAll h
    intro b hb
    rw [List.flatMap_cons] at hb ⊢
    rcases List.mem_append.1 hb with hb | hb
    · obtain ⟨a, ha, hab⟩ := mem_values_of_mapLastFirst hu b hb
      exact ⟨a, List.mem_append_left _ ha, hab⟩
    · obtain ⟨a, ha, hab⟩ := mem_values_of_mapLastFirstAll hus b hb
      exact ⟨a, List.mem_append_right _ ha, hab⟩

end

mutual

theorem error_of_mapLastFirst {e : GenerationError} :
    ∀ {t : Tree α}, (t.mapLastFirst f).result = .error e →
      ∃ a ∈ t.values, (f a).result = .error e
  | node v ts, h => by
    rw [mapLastFirst] at h
    rw [values_node]
    rcases Diagnosed.result_bind_eq_error.1 h with h | ⟨w, -, h⟩
    · exact ⟨v, List.mem_cons_self, h⟩
    · rcases Diagnosed.result_bind_eq_error.1 h with h | ⟨us, -, h⟩
      · obtain ⟨a, ha, hf⟩ := error_of_mapLastFirstAll h
        exact ⟨a, List.mem_cons_of_mem v ha, hf⟩
      · cases h

/-- Trees have no result only if some value in them has none. -/
theorem error_of_mapLastFirstAll {e : GenerationError} :
    ∀ {ts : List (Tree α)}, (mapLastFirstAll f ts).result = .error e →
      ∃ a ∈ ts.flatMap values, (f a).result = .error e
  | [], h => by
    rw [mapLastFirstAll] at h
    cases h
  | t :: ts, h => by
    rw [mapLastFirstAll] at h
    rw [List.flatMap_cons]
    rcases Diagnosed.result_bind_eq_error.1 h with h | ⟨us, -, h⟩
    · obtain ⟨a, ha, hf⟩ := error_of_mapLastFirstAll h
      exact ⟨a, List.mem_append_right _ ha, hf⟩
    · rcases Diagnosed.result_bind_eq_error.1 h with h | ⟨u, -, h⟩
      · obtain ⟨a, ha, hf⟩ := error_of_mapLastFirst h
        exact ⟨a, List.mem_append_left _ ha, hf⟩
      · cases h

end

mutual

theorem warnings_mapLastFirst : ∀ {t : Tree α} {t' : Tree β},
    (t.mapLastFirst f).result = .ok t' →
      (t.mapLastFirst f).warnings.Perm (t.values.flatMap fun a => (f a).warnings)
  | node v ts, t', h => by
    obtain ⟨w, ts', hw, hts, rfl⟩ := exists_of_mapLastFirst h
    rw [mapLastFirst, Diagnosed.bind_ok hw, Diagnosed.bind_ok hts, values_node, List.flatMap_cons,
      Diagnosed.pure_def]
    simpa using (warnings_mapLastFirstAll hts).append_left (f v).warnings

/-- What is warned of while trees are visited is what is warned of at their nodes. -/
theorem warnings_mapLastFirstAll : ∀ {ts : List (Tree α)} {ts' : List (Tree β)},
    (mapLastFirstAll f ts).result = .ok ts' →
      (mapLastFirstAll f ts).warnings.Perm
        ((ts.flatMap values).flatMap fun a => (f a).warnings)
  | [], ts', h => by simp [mapLastFirstAll, Diagnosed.pure_def]
  | t :: ts, ts', h => by
    obtain ⟨u, us, hu, hus, rfl⟩ := exists_of_mapLastFirstAll h
    rw [mapLastFirstAll, Diagnosed.bind_ok hus, Diagnosed.bind_ok hu, List.flatMap_cons,
      List.flatMap_append, Diagnosed.pure_def, List.append_nil]
    -- the last tree comes first
    have ht := warnings_mapLastFirst hu
    have hts := warnings_mapLastFirstAll hus
    exact (hts.append ht).trans List.perm_append_comm

end
end

end Tree
end EntityGen
