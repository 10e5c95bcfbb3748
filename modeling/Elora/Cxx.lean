import Mathlib

/-!
# What the model needs of the C++ library

`OrdMap κ ν` is a C++ `std::map<κ, ν>` (with `Unit` values, a `std::set<κ>`) seen through its
in-order traversal: a list of entries whose keys strictly increase. The order is a field of the
structure, so a map is determined by its lookups (`OrdMap.ext`): two states built by the same
updates in different orders are equal as soon as their lookups agree.

* `insert` is `std::map::insert`, which leaves an existing entry as it is (`find?_insert`).
* `modify` is a write through the iterator of a successful `find` (`find?_modify`).
* `assign` is `m[k] = v`, `operator[]` followed by an assignment (`find?_assign`).

`Result σ` is how a call ends: with a state, with `NS_ABORT_MSG`, or in undefined behaviour
(dereferencing the `end ()` of a map, indexing a vector out of range). `NS_ASSERT` and
`NS_ASSERT_MSG` are read as in ns-3's default and debug builds, where they abort too; an
optimised build compiles them out.

`Time` is an ns-3 `Time` in nanoseconds. Built from a double it is rounded to the nearest
nanosecond (`llround`); a double printed by `operator<<` shows 6 significant digits
(`sixDigits`). Both are stated by their error: `abs_sixDigits_sub_le` and the monotonicity lemmas.
-/

namespace Elora

/-- The value of the first entry with key `k`. -/
def lookup {κ ν : Type} [DecidableEq κ] (k : κ) : List (κ × ν) → Option ν
  | [] => none
  | (k', v) :: t => if k = k' then some v else lookup k t

theorem lookup_append {κ ν : Type} [DecidableEq κ] (k : κ) :
    ∀ l₁ l₂ : List (κ × ν), lookup k (l₁ ++ l₂) = (lookup k l₁).or (lookup k l₂)
  | [], _ => rfl
  | (k', v) :: t, l₂ => by
    simp only [List.cons_append, lookup]
    split_ifs
    · rfl
    · exact lookup_append k t l₂

/-- No key has a value exactly in the empty list. -/
theorem forall_lookup_eq_none {κ ν : Type} [DecidableEq κ] {l : List (κ × ν)} :
    (∀ k, lookup k l = none) ↔ l = [] := by
  refine ⟨fun h => ?_, fun h _ => h ▸ rfl⟩
  obtain _ | ⟨⟨k, v⟩, t⟩ := l
  · rfl
  · simpa [lookup] using h k

/-- Keys strictly increase along the list. -/
def KeysSorted {κ ν : Type} [LinearOrder κ] (l : List (κ × ν)) : Prop :=
  l.Pairwise fun a b => a.1 < b.1

/-- A `std::map`, as the list of its entries in key order. -/
structure OrdMap (κ ν : Type) [LinearOrder κ] where
  entries : List (κ × ν)
  sorted : KeysSorted entries

namespace OrdMap

variable {κ ν : Type} [LinearOrder κ]

/-! ## Lists of entries -/

/-- `std::map::insert` on the traversal: nothing changes if `k` is present. -/
def insertList (k : κ) (v : ν) : List (κ × ν) → List (κ × ν)
  | [] => [(k, v)]
  | (k', v') :: t =>
    if k < k' then (k, v) :: (k', v') :: t
    else if k = k' then (k', v') :: t
    else (k', v') :: insertList k v t

/-- Apply `f` to the value at `k`, if there is one. -/
def modifyList (k : κ) (f : ν → ν) : List (κ × ν) → List (κ × ν)
  | [] => []
  | (k', v) :: t => if k = k' then (k', f v) :: t else (k', v) :: modifyList k f t

theorem lookup_eq_none {k : κ} : ∀ {l : List (κ × ν)}, (∀ x ∈ l, x.1 ≠ k) → lookup k l = none
  | [], _ => rfl
  | (k', v) :: t, h => by
    simp only [List.mem_cons, forall_eq_or_imp] at h
    simp only [lookup, if_neg (Ne.symm h.1), lookup_eq_none h.2]

theorem lookup_eq_none_of_lt {k : κ} {l : List (κ × ν)} (h : ∀ x ∈ l, k < x.1) :
    lookup k l = none :=
  lookup_eq_none fun x hx => ne_of_gt (h x hx)

theorem keysSorted_cons {x : κ × ν} {t : List (κ × ν)} :
    KeysSorted (x :: t) ↔ (∀ y ∈ t, x.1 < y.1) ∧ KeysSorted t :=
  List.pairwise_cons

theorem mem_insertList {k : κ} {v : ν} {x : κ × ν} :
    ∀ {l : List (κ × ν)}, x ∈ insertList k v l → x = (k, v) ∨ x ∈ l
  | [], h => by simpa [insertList] using h
  | (k', v') :: t, h => by
    simp only [insertList] at h
    split_ifs at h
    · simpa using h
    · exact .inr h
    · rcases List.mem_cons.1 h with rfl | h
      · exact .inr (List.mem_cons_self _ _)
      · exact (mem_insertList h).imp_right (List.mem_cons_of_mem _)

theorem keysSorted_insertList (k : κ) (v : ν) :
    ∀ {l : List (κ × ν)}, KeysSorted l → KeysSorted (insertList k v l)
  | [], _ => List.pairwise_singleton _ _
  | (k', v') :: t, h => by
    rw [keysSorted_cons] at h
    simp only [insertList]
    split_ifs with hlt heq
    · refine keysSorted_cons.2 ⟨?_, keysSorted_cons.2 h⟩
      simp only [List.mem_cons, forall_eq_or_imp]
      exact ⟨hlt, fun y hy => lt_trans hlt (h.1 y hy)⟩
    · exact keysSorted_cons.2 h
    · refine keysSorted_cons.2 ⟨fun y hy => ?_, keysSorted_insertList k v h.2⟩
      rcases mem_insertList hy with rfl | hy
      · exact lt_of_le_of_ne (not_lt.1 hlt) (Ne.symm heq)
      · exact h.1 y hy

theorem lookup_cons_eq_none_of_lt {k k₀ : κ} {v₀ : ν} {t : List (κ × ν)}
    (h : ∀ y ∈ t, k₀ < y.1) (hlt : k < k₀) : lookup k ((k₀, v₀) :: t) = none :=
  lookup_eq_none_of_lt fun y hy => by
    rcases List.mem_cons.1 hy with rfl | hy
    · exact hlt
    · exact lt_trans hlt (h y hy)

theorem lookup_insertList (k k' : κ) (v : ν) :
    ∀ {l : List (κ × ν)}, KeysSorted l →
      lookup k' (insertList k v l) = (lookup k' l).or (if k' = k then some v else none)
  | [], _ => by simp [insertList, lookup]
  | (k₀, v₀) :: t, h => by
    rw [keysSorted_cons] at h
    have ih := lookup_insertList k k' v h.2
    by_cases hk : k' = k
    · subst hk
      simp only [insertList]
      split_ifs with hlt heq
      · rw [lookup_cons_eq_none_of_lt h.1 hlt]; simp [lookup]
      · subst heq; simp [lookup]
      · simp [lookup, heq, ih]
    · simp only [insertList, if_neg hk, Option.or_none] at ih ⊢
      split_ifs <;> simp [lookup, hk, ih]

theorem insertList_of_lt {k : κ} {v : ν} :
    ∀ {l : List (κ × ν)}, (∀ x ∈ l, x.1 < k) → insertList k v l = l ++ [(k, v)]
  | [], _ => rfl
  | (k', v') :: t, h => by
    simp only [List.mem_cons, forall_eq_or_imp] at h
    simp only [insertList, if_neg (not_lt.2 (le_of_lt h.1)), if_neg (ne_of_gt h.1),
      insertList_of_lt h.2, List.cons_append]

theorem keys_modifyList (k : κ) (f : ν → ν) :
    ∀ l : List (κ × ν), (modifyList k f l).map Prod.fst = l.map Prod.fst
  | [] => rfl
  | (k', v) :: t => by
    simp only [modifyList]
    split_ifs <;> simp [keys_modifyList k f t]

theorem keysSorted_modifyList (k : κ) (f : ν → ν) {l : List (κ × ν)} (h : KeysSorted l) :
    KeysSorted (modifyList k f l) := by
  unfold KeysSorted at *
  rw [← List.pairwise_map (R := (· < ·)), keys_modifyList, List.pairwise_map]
  exact h

theorem lookup_modifyList (k k' : κ) (f : ν → ν) :
    ∀ l : List (κ × ν), lookup k' (modifyList k f l) = if k' = k then (lookup k l).map f
      else lookup k' l
  | [] => by simp [modifyList, lookup]
  | (k₀, v) :: t => by
    have ih := lookup_modifyList k k' f t
    simp only [modifyList, lookup]
    split_ifs <;> simp_all [lookup]

/-- A traversal with strictly increasing keys is determined by its lookups. -/
theorem eq_of_lookup_eq : ∀ {l₁ l₂ : List (κ × ν)}, KeysSorted l₁ → KeysSorted l₂ →
    (∀ k, lookup k l₁ = lookup k l₂) → l₁ = l₂
  | [], [], _, _, _ => rfl
  | [], (k, v) :: _, _, _, h => by simpa [lookup] using h k
  | (k, v) :: _, [], _, _, h => by simpa [lookup] using h k
  | (k₁, v₁) :: t₁, (k₂, v₂) :: t₂, h₁, h₂, h => by
    rw [keysSorted_cons] at h₁ h₂
    have hk : k₁ = k₂ := by
      rcases lt_trichotomy k₁ k₂ with hlt | heq | hgt
      · have := h k₁
        rw [lookup_cons_eq_none_of_lt h₂.1 hlt] at this
        simp [lookup] at this
      · exact heq
      · have := h k₂
        rw [lookup_cons_eq_none_of_lt h₁.1 hgt] at this
        simp [lookup] at this
    subst hk
    have hv : v₁ = v₂ := by simpa [lookup] using h k₁
    have ht : ∀ k, lookup k t₁ = lookup k t₂ := fun k => by
      by_cases hk : k = k₁
      · subst hk; rw [lookup_eq_none_of_lt h₁.1, lookup_eq_none_of_lt h₂.1]
      · simpa [lookup, hk] using h k
    rw [hv, eq_of_lookup_eq h₁.2 h₂.2 ht]

theorem lookup_eq_some_iff {k : κ} {v : ν} :
    ∀ {l : List (κ × ν)}, KeysSorted l → (lookup k l = some v ↔ (k, v) ∈ l)
  | [], _ => by simp [lookup]
  | (k', v') :: t, h => by
    rw [keysSorted_cons] at h
    simp only [lookup, List.mem_cons, Prod.mk.injEq]
    by_cases hk : k = k'
    · subst hk
      have : (k, v) ∉ t := fun hm => lt_irrefl k (h.1 _ hm)
      simp [this, eq_comm]
    · simp [hk, lookup_eq_some_iff h.2]

/-! ## Maps -/

def empty : OrdMap κ ν := ⟨[], List.Pairwise.nil⟩

/-- `std::map::find`, as the value found. -/
def find? (m : OrdMap κ ν) (k : κ) : Option ν := lookup k m.entries

def insert (m : OrdMap κ ν) (k : κ) (v : ν) : OrdMap κ ν :=
  ⟨insertList k v m.entries, keysSorted_insertList k v m.sorted⟩

def modify (m : OrdMap κ ν) (k : κ) (f : ν → ν) : OrdMap κ ν :=
  ⟨modifyList k f m.entries, keysSorted_modifyList k f m.sorted⟩

def assign (m : OrdMap κ ν) (k : κ) (v : ν) : OrdMap κ ν :=
  if (m.find? k).isSome then m.modify k fun _ => v else m.insert k v

def size (m : OrdMap κ ν) : Nat := m.entries.length

def values (m : OrdMap κ ν) : List ν := m.entries.map Prod.snd

instance [DecidableEq κ] [DecidableEq ν] : DecidableEq (OrdMap κ ν) := fun m₁ m₂ =>
  decidable_of_iff (m₁.entries = m₂.entries) (by cases m₁; cases m₂; simp)

@[ext] theorem ext {m₁ m₂ : OrdMap κ ν} (h : ∀ k, m₁.find? k = m₂.find? k) : m₁ = m₂ := by
  obtain ⟨l₁, h₁⟩ := m₁
  obtain ⟨l₂, h₂⟩ := m₂
  simpa using eq_of_lookup_eq h₁ h₂ h

@[simp] theorem find?_empty : (empty : OrdMap κ ν).find? = fun _ => none := rfl

@[simp] theorem find?_insert (m : OrdMap κ ν) (k k' : κ) (v : ν) :
    (m.insert k v).find? k' = (m.find? k').or (if k' = k then some v else none) :=
  lookup_insertList k k' v m.sorted

@[simp] theorem find?_modify (m : OrdMap κ ν) (k k' : κ) (f : ν → ν) :
    (m.modify k f).find? k' = if k' = k then (m.find? k).map f else m.find? k' :=
  lookup_modifyList k k' f m.entries

@[simp] theorem find?_assign (m : OrdMap κ ν) (k k' : κ) (v : ν) :
    (m.assign k v).find? k' = if k' = k then some v else m.find? k' := by
  cases hf : m.find? k <;> by_cases hk : k' = k <;> simp [assign, hf, hk, Option.or_none]

theorem insert_comm (m : OrdMap κ ν) {k₁ k₂ : κ} (h : k₁ ≠ k₂) (v₁ v₂ : ν) :
    (m.insert k₁ v₁).insert k₂ v₂ = (m.insert k₂ v₂).insert k₁ v₁ := by
  ext1 k
  by_cases h₁ : k = k₁
  · subst h₁; simp [h, Option.or_none]
  · by_cases h₂ : k = k₂
    · subst h₂; simp [h₁, Option.or_none]
    · simp [h₁, h₂, Option.or_none]

theorem modify_comm (m : OrdMap κ ν) {k₁ k₂ : κ} {f g : ν → ν}
    (h : k₁ = k₂ → ∀ v, g (f v) = f (g v)) :
    (m.modify k₁ f).modify k₂ g = (m.modify k₂ g).modify k₁ f := by
  ext1 k
  by_cases h₁ : k = k₁ <;> by_cases h₂ : k = k₂
  · subst h₁; subst h₂; simp [Option.map_map, Function.comp_def, h rfl]
  · subst h₁; simp [h₂]
  · subst h₂; simp [h₁]
  · simp [h₁, h₂]

theorem find?_modify_isSome (m : OrdMap κ ν) (k k' : κ) (f : ν → ν) :
    ((m.modify k f).find? k').isSome = (m.find? k').isSome := by
  by_cases h : k' = k
  · subst h; simp
  · simp [h]

theorem mem_entries {m : OrdMap κ ν} {k : κ} {v : ν} : (k, v) ∈ m.entries ↔ m.find? k = some v :=
  (lookup_eq_some_iff m.sorted).symm

theorem mem_values {m : OrdMap κ ν} {v : ν} : v ∈ m.values ↔ ∃ k, m.find? k = some v := by
  simp only [values, List.mem_map, Prod.exists, exists_eq_right, mem_entries]

theorem values_eq_nil {m : OrdMap κ ν} : m.values = [] ↔ m.entries = [] := List.map_eq_nil_iff

/-- A count over the traversal is a count over any duplicate-free list that holds every key of
the map. -/
theorem countP_values {m : OrdMap κ ν} {ks : List κ} (hks : ks.Nodup)
    (hsub : ∀ k, (m.find? k).isSome → k ∈ ks) (f : ν → Bool) :
    m.values.countP f = ks.countP fun k => (m.find? k).any f := by
  have hkeys : (m.entries.map Prod.fst).Nodup := (List.pairwise_map.2 m.sorted).imp ne_of_lt
  have hperm : (m.entries.map Prod.fst).Perm (ks.filter fun k => (m.find? k).isSome) := by
    refine (List.perm_ext_iff_of_nodup hkeys (hks.filter _)).2 fun k => ?_
    rw [List.mem_filter, List.mem_map]
    constructor
    · rintro ⟨⟨k, v⟩, h, rfl⟩
      have hk : (m.find? k).isSome := by simp [mem_entries.1 h]
      exact ⟨hsub k hk, hk⟩
    · rintro ⟨-, hk⟩
      obtain ⟨v, hv⟩ := Option.isSome_iff_exists.1 hk
      exact ⟨(k, v), mem_entries.2 hv, rfl⟩
  calc m.values.countP f = m.entries.countP fun e => (m.find? e.1).any f := by
        rw [values, List.countP_map]
        exact List.countP_congr fun ⟨k, v⟩ h => by simp [mem_entries.1 h]
    _ = (m.entries.map Prod.fst).countP fun k => (m.find? k).any f := by
        rw [List.countP_map]; rfl
    _ = (ks.filter fun k => (m.find? k).isSome).countP fun k => (m.find? k).any f :=
        hperm.countP_eq _
    _ = ks.countP fun k => (m.find? k).any f := by
        rw [List.countP_filter]
        exact List.countP_congr fun k _ => by cases m.find? k <;> simp

/-- The keys of the entries whose value satisfies `f` are, up to order, those keys of any
duplicate-free list holding every key of the map at which the map's value satisfies `f`. -/
theorem keys_filter_perm {m : OrdMap κ ν} {ks : List κ} (hks : ks.Nodup)
    (hsub : ∀ k, (m.find? k).isSome → k ∈ ks) (f : ν → Bool) :
    ((m.entries.filter fun e => f e.2).map Prod.fst).Perm
      (ks.filter fun k => (m.find? k).any f) := by
  have hkeys : (m.entries.map Prod.fst).Nodup := (List.pairwise_map.2 m.sorted).imp ne_of_lt
  refine (List.perm_ext_iff_of_nodup (((List.filter_sublist _).map _).nodup hkeys)
    (hks.filter _)).2 fun k => ?_
  simp only [List.mem_map, List.mem_filter, Prod.exists, exists_and_right, exists_eq_right,
    mem_entries]
  constructor
  · rintro ⟨v, hv, hf⟩
    exact ⟨hsub k (by simp [hv]), by simp [hv, hf]⟩
  · rintro ⟨-, hk⟩
    cases hv : m.find? k with
    | none => simp [hv] at hk
    | some v => exact ⟨v, rfl, by simpa [hv] using hk⟩

/-- A sum over the entries whose value satisfies `f`, of a weight of their key, is a sum over any
duplicate-free list that holds every key of the map. -/
theorem sum_filter_entries {M : Type} [AddCommMonoid M] {m : OrdMap κ ν} {ks : List κ}
    (hks : ks.Nodup) (hsub : ∀ k, (m.find? k).isSome → k ∈ ks) (f : ν → Bool) (w : κ → M) :
    ((m.entries.filter fun e => f e.2).map fun e => w e.1).sum =
      ((ks.filter fun k => (m.find? k).any f).map w).sum := by
  have := ((keys_filter_perm hks hsub f).map w).sum_eq
  rwa [List.map_map] at this

theorem mem_values_insert {m : OrdMap κ ν} {k : κ} {v w : ν} :
    v ∈ (m.insert k w).values ↔ v ∈ m.values ∨ m.find? k = none ∧ v = w := by
  simp only [mem_values, find?_insert]
  constructor
  · rintro ⟨k', hk'⟩
    cases hf : m.find? k' with
    | some u => exact .inl ⟨k', by simpa [hf] using hk'⟩
    | none =>
      by_cases hk : k' = k
      · subst hk; simp_all
      · simp [hf, hk] at hk'
  · rintro (⟨k', hk'⟩ | ⟨hf, rfl⟩)
    · exact ⟨k', by simp [hk']⟩
    · exact ⟨k, by simp [hf]⟩

@[simp] theorem modify_entries_keys (m : OrdMap κ ν) (k : κ) (f : ν → ν) :
    (m.modify k f).entries.map Prod.fst = m.entries.map Prod.fst :=
  keys_modifyList k f m.entries

theorem insert_entries_of_lt {m : OrdMap κ ν} {k : κ} (v : ν) (h : ∀ x ∈ m.entries, x.1 < k) :
    (m.insert k v).entries = m.entries ++ [(k, v)] :=
  insertList_of_lt h

theorem assign_entries_of_lt {m : OrdMap κ ν} {k : κ} (v : ν) (h : ∀ x ∈ m.entries, x.1 < k) :
    (m.assign k v).entries = m.entries ++ [(k, v)] := by
  have hk : m.find? k = none := lookup_eq_none fun x hx => ne_of_lt (h x hx)
  simp only [assign, hk, Option.isSome_none, Bool.false_eq_true, if_false]
  exact insert_entries_of_lt v h

theorem insert_of_find?_isSome {m : OrdMap κ ν} {k : κ} (v : ν) (h : (m.find? k).isSome) :
    m.insert k v = m := by
  ext k'
  obtain ⟨w, hw⟩ := Option.isSome_iff_exists.1 h
  by_cases hk : k' = k
  · subst hk; simp [hw]
  · simp [hk, Option.or_none]

end OrdMap

/-! ## How a call ends -/

inductive Result (σ : Type) where
  | ok (s : σ)
  | abort (msg : String)
  | undefined
  deriving DecidableEq, Repr

namespace Result

variable {σ τ : Type}

def bind : Result σ → (σ → Result τ) → Result τ
  | ok s, f => f s
  | abort msg, _ => abort msg
  | undefined, _ => undefined

@[simp] theorem ok_bind (s : σ) (f : σ → Result τ) : (ok s).bind f = f s := rfl

@[simp] theorem bind_ok (x : Result σ) : x.bind ok = x := by
  cases x <;> rfl

theorem bind_eq_ok {x : Result σ} {f : σ → Result τ} {t : τ} :
    x.bind f = ok t ↔ ∃ s, x = ok s ∧ f s = ok t := by
  cases x <;> simp [bind]

/-- Apply `f` to each element in turn, stopping at the first call that does not end normally. -/
def mapList {α : Type} (f : α → Result σ) : List α → Result (List σ)
  | [] => ok []
  | a :: as => (f a).bind fun s => (mapList f as).bind fun ss => ok (s :: ss)

theorem mapList_eq_ok {α : Type} {f : α → Result σ} :
    ∀ {as : List α} {ss : List σ}, mapList f as = ok ss → ∀ a ∈ as, ∃ s, f a = ok s
  | [], _, _, a, ha => absurd ha (List.not_mem_nil a)
  | a :: as, ss, h, b, hb => by
    obtain ⟨s, hs, h⟩ := bind_eq_ok.1 h
    obtain ⟨ss', hss, -⟩ := bind_eq_ok.1 h
    rcases List.mem_cons.1 hb with rfl | hb
    exacts [⟨s, hs⟩, mapList_eq_ok hss b hb]

end Result

/-! ## ns-3 `Time` and printed doubles -/

/-- Simulated time in nanoseconds: an ns-3 `Time` at its default resolution. -/
abbrev Time := Int

/-- `Time::GetSeconds ()`. -/
def Time.getSeconds (t : Time) : ℚ := t / 1000000000

/-- The rounding of `Time`'s constructor from a number of nanoseconds (`int64x64_t::Round`,
`std::llround`): to the nearest integer, halfway cases away from zero. -/
def llround (x : ℚ) : ℤ := if x < 0 then -⌊-x + 1 / 2⌋ else ⌊x + 1 / 2⌋

theorem llround_of_nonneg {x : ℚ} (h : 0 ≤ x) : llround x = ⌊x + 1 / 2⌋ :=
  if_neg (not_lt.2 h)

@[simp] theorem llround_intCast (n : ℤ) : llround n = n := by
  unfold llround
  split_ifs
  · rw [← Int.cast_neg, Int.floor_int_add, Int.floor_eq_zero_iff.2 ⟨by norm_num, by norm_num⟩]
    simp
  · rw [Int.floor_int_add, Int.floor_eq_zero_iff.2 ⟨by norm_num, by norm_num⟩, add_zero]

@[simp] theorem llround_ofNat (n : ℕ) [n.AtLeastTwo] :
    llround (no_index (OfNat.ofNat n : ℚ)) = OfNat.ofNat n :=
  llround_intCast n

theorem llround_nonneg {x : ℚ} (h : 0 ≤ x) : 0 ≤ llround x := by
  rw [llround_of_nonneg h]
  exact Int.floor_nonneg.2 (by linarith)

theorem llround_mono {x y : ℚ} (hx : 0 ≤ x) (h : x ≤ y) : llround x ≤ llround y := by
  rw [llround_of_nonneg hx, llround_of_nonneg (hx.trans h)]
  exact Int.floor_mono (by linarith)

/-- Values a nanosecond apart round to different times. -/
theorem llround_lt_llround {x y : ℚ} (hx : 0 ≤ x) (h : x + 1 ≤ y) : llround x < llround y := by
  have hy : llround (x + 1) ≤ llround y := llround_mono (by linarith) h
  rw [llround_of_nonneg (by linarith), add_right_comm, Int.floor_add_one,
    ← llround_of_nonneg hx] at hy
  omega

/-- What `operator<<` shows of a double at the stream's default precision, read back as a number:
the value rounded to 6 significant digits (`%g`). The doubles are exact here, so a halfway case,
which the binary digits of the double decide, rounds up; the doubles printed are non-negative. -/
def sixDigits (x : ℚ) : ℚ :=
  if x = 0 then 0 else round (x / 10 ^ (Int.log 10 |x| - 5)) * 10 ^ (Int.log 10 |x| - 5)

/-- Six significant digits are exact to within a 200000th of the value. -/
theorem abs_sixDigits_sub_le (x : ℚ) : |sixDigits x - x| ≤ |x| / 200000 := by
  unfold sixDigits
  split_ifs with hx
  · simp [hx]
  set u : ℚ := 10 ^ (Int.log 10 |x| - 5)
  have hu : 0 < u := zpow_pos (by norm_num) _
  have hlog : (10 : ℚ) ^ (Int.log 10 |x|) ≤ |x| := Int.zpow_log_le_self (by norm_num) (abs_pos.2 hx)
  have hsplit : (10 : ℚ) ^ (Int.log 10 |x|) = u * 100000 := by
    rw [show u = 10 ^ (Int.log 10 |x| - 5) from rfl, zpow_sub₀ (by norm_num)]
    norm_num
  have herr : round (x / u) * u - x = (round (x / u) - x / u) * u := by
    rw [sub_mul, div_mul_cancel₀ _ hu.ne']
  calc |round (x / u) * u - x| = |x / u - round (x / u)| * u := by
        rw [herr, abs_mul, abs_sub_comm, abs_of_pos hu]
    _ ≤ 1 / 2 * u := by gcongr; exact abs_sub_round _
    _ ≤ |x| / 200000 := by linarith

/-- A positive value prints within its decade `[10^e, 10^(e+1)]`. -/
theorem sixDigits_mem_Icc {x : ℚ} (hx : 0 < x) :
    10 ^ Int.log 10 x ≤ sixDigits x ∧ sixDigits x ≤ 10 ^ (Int.log 10 x + 1) := by
  rw [sixDigits, if_neg hx.ne', abs_of_pos hx, round_eq]
  set u : ℚ := 10 ^ (Int.log 10 x - 5)
  have hu : 0 < u := zpow_pos (by norm_num) _
  have hlo : (10 : ℚ) ^ Int.log 10 x = 100000 * u := by
    rw [show u = 10 ^ (Int.log 10 x - 5) from rfl, zpow_sub₀ (by norm_num)]
    ring
  have hhi : (10 : ℚ) ^ (Int.log 10 x + 1) = 1000000 * u := by
    rw [zpow_add_one₀ (by norm_num), hlo]
    ring
  have h₁ : 100000 ≤ x / u := (le_div_iff₀ hu).2 (hlo ▸ Int.zpow_log_le_self (by norm_num) hx)
  have h₂ : x / u < 1000000 := (div_lt_iff₀ hu).2 (hhi ▸ Int.lt_zpow_succ_log_self (by norm_num) x)
  have hlow : (100000 : ℤ) ≤ ⌊x / u + 1 / 2⌋ := Int.le_floor.2 (by push_cast; linarith)
  have hhigh : ⌊x / u + 1 / 2⌋ < 1000001 := Int.floor_lt.2 (by push_cast; linarith)
  rw [hlo, hhi]
  constructor <;> gcongr
  · exact_mod_cast hlow
  · exact_mod_cast (show ⌊x / u + 1 / 2⌋ ≤ 1000000 by omega)

theorem sixDigits_nonneg {x : ℚ} (hx : 0 ≤ x) : 0 ≤ sixDigits x := by
  rcases hx.eq_or_lt with rfl | hx
  · simp [sixDigits]
  · exact (zpow_pos (by norm_num) _).le.trans (sixDigits_mem_Icc hx).1

/-- Printing keeps the order of non-negative values. -/
theorem sixDigits_mono {x y : ℚ} (hx : 0 ≤ x) (h : x ≤ y) : sixDigits x ≤ sixDigits y := by
  rcases hx.eq_or_lt with rfl | hx
  · simpa [sixDigits] using sixDigits_nonneg h
  have hy := hx.trans_le h
  rcases (Int.log_mono_right hx h).eq_or_lt with he | hlt
  · rw [sixDigits, sixDigits, if_neg hx.ne', if_neg hy.ne', abs_of_pos hx, abs_of_pos hy, he,
      round_eq, round_eq]
    gcongr
  · calc sixDigits x ≤ 10 ^ (Int.log 10 x + 1) := (sixDigits_mem_Icc hx).2
      _ ≤ 10 ^ Int.log 10 y := zpow_le_zpow_right₀ (by norm_num) hlt
      _ ≤ sixDigits y := (sixDigits_mem_Icc hy).1

/-- Printed one by one, non-negative values add up to their sum to within a 200000th of it. -/
theorem abs_sum_sixDigits_sub_le :
    ∀ l : List ℚ, (∀ x ∈ l, 0 ≤ x) → |(l.map sixDigits).sum - l.sum| ≤ l.sum / 200000
  | [], _ => by simp
  | x :: l, hl => by
    have hx := abs_sixDigits_sub_le x
    have ih := abs_sum_sixDigits_sub_le l fun y hy => hl y (List.mem_cons_of_mem x hy)
    rw [abs_of_nonneg (hl x (List.mem_cons_self x l))] at hx
    simp only [List.map_cons, List.sum_cons]
    calc |sixDigits x + (l.map sixDigits).sum - (x + l.sum)|
        ≤ |sixDigits x - x| + |(l.map sixDigits).sum - l.sum| := by
          rw [add_sub_add_comm]
          exact abs_add _ _
      _ ≤ (x + l.sum) / 200000 := by linarith

end Elora
