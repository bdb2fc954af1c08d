import Mathlib.Data.List.Nodup

/-!
Lists of records that are searched by a key, as intrusive linked lists are: a
search, an update and a removal all concern the first record with the key. The
lemmas say what a search finds afterwards; none of them needs the keys to be
distinct.
-/
namespace KeyedList
open List
variable {α κ : Type*} [DecidableEq κ] (key : α → κ)

def lookup (k : κ) (l : List α) : Option α := l.find? (fun a => key a = k)

def update (k : κ) (f : α → α) : List α → List α
  | [] => []
  | a :: rest => if key a = k then f a :: rest else a :: update k f rest

def remove (k : κ) (l : List α) : List α := l.eraseP (fun a => key a = k)

scoped instance decidableFound {p : α → Prop} [DecidablePred p] (found : Option α) :
    Decidable (∀ a, found = some a → p a) :=
  inferInstanceAs (Decidable (∀ a ∈ found, p a))

variable {key} {k j : κ} {f : α → α} {a : α}

lemma lookup_cons_self (found : key a = k) (l) : lookup key k (a :: l) = some a := by
  simp [lookup, found]

lemma lookup_cons_of_ne (other : key a ≠ k) (l) : lookup key k (a :: l) = lookup key k l := by
  simp [lookup, other]

lemma lookup_update_self (keeps : ∀ a, key a = k → key (f a) = k) (l) :
    lookup key k (update key k f l) = (lookup key k l).map f := by
  induction l with
  | nil => rfl
  | cons a rest ih =>
    by_cases here : key a = k
    · rw [update, if_pos here, lookup_cons_self (keeps a here), lookup_cons_self here]
      rfl
    · rw [update, if_neg here, lookup_cons_of_ne here, lookup_cons_of_ne here, ih]

lemma lookup_update_of_ne (keeps : ∀ a, key a = k → key (f a) = k) (other : j ≠ k)
    (l) : lookup key j (update key k f l) = lookup key j l := by
  induction l with
  | nil => rfl
  | cons a rest ih =>
    by_cases here : key a = k
    · have notJ : key a ≠ j := fun same => other (same.symm.trans here)
      have notJ' : key (f a) ≠ j := fun same => other (same.symm.trans (keeps a here))
      rw [update, if_pos here, lookup_cons_of_ne notJ, lookup_cons_of_ne notJ']
    · by_cases atJ : key a = j
      · rw [update, if_neg here, lookup_cons_self atJ, lookup_cons_self atJ]
      · rw [update, if_neg here, lookup_cons_of_ne atJ, lookup_cons_of_ne atJ, ih]

variable {l : List α}

lemma mem_of_lookup (h : lookup key k l = some a) : a ∈ l ∧ key a = k := by
  rw [lookup] at h
  have found := find?_some h
  exact ⟨mem_of_find?_eq_some h, of_decide_eq_true found⟩

lemma mem_update (h : a ∈ update key k f l) : a ∈ l ∨ ∃ b, lookup key k l = some b ∧ a = f b := by
  induction l with
  | nil => cases h
  | cons b rest ih =>
    by_cases here : key b = k
    · rw [update, if_pos here] at h
      cases mem_cons.mp h with
      | inl first => exact .inr ⟨b, lookup_cons_self here rest, first⟩
      | inr later => exact .inl (mem_cons_of_mem b later)
    · rw [update, if_neg here] at h
      rw [lookup_cons_of_ne here]
      cases mem_cons.mp h with
      | inl first => exact .inl (first ▸ mem_cons_self)
      | inr later => exact (ih later).imp_left (mem_cons_of_mem b)

lemma mem_update_of_ne (mem : a ∈ l) (other : key a ≠ k) : a ∈ update key k f l := by
  induction l with
  | nil => cases mem
  | cons b rest ih =>
    rw [update]
    split
    next here =>
      rcases mem_cons.mp mem with rfl | inRest
      · exact absurd here other
      · exact mem_cons_of_mem _ inRest
    · rcases mem_cons.mp mem with rfl | inRest
      · exact mem_cons_self
      · exact mem_cons_of_mem _ (ih inRest)

lemma mem_remove_of_ne (mem : a ∈ l) (other : key a ≠ k) : a ∈ remove key k l :=
  (mem_eraseP_of_neg (by simpa using other)).mpr mem

lemma map_update_same {β : Type*} {g : α → β} (same : ∀ a, key a = k → g (f a) = g a) (l) :
    (update key k f l).map g = l.map g := by
  induction l with
  | nil => rfl
  | cons a rest ih =>
    rw [update]
    split
    next here => rw [map_cons, map_cons, same a here]
    · rw [map_cons, map_cons, ih]

lemma map_key_update (keeps : ∀ a, key a = k → key (f a) = k) (l) :
    (update key k f l).map key = l.map key :=
  map_update_same (fun a here => (keeps a here).trans here.symm) l

lemma mem_of_mem_remove (h : a ∈ remove key k l) : a ∈ l := mem_of_mem_eraseP h

lemma filter_remove_of_ne (other : j ≠ k) (l) :
    (remove key k l).filter (fun b => key b = j) = l.filter (fun b => key b = j) := by
  induction l with
  | nil => rfl
  | cons b rest ih =>
    by_cases here : key b = k
    · rw [remove, eraseP_cons_of_pos (by simpa using here), filter_cons_of_neg]
      simpa using fun same => other (same.symm.trans here)
    · rw [remove, eraseP_cons_of_neg (by simpa using here), filter_cons, filter_cons, ← ih]
      rfl

lemma lookup_remove_of_ne (other : j ≠ k) (l) : lookup key j (remove key k l) = lookup key j l := by
  rw [lookup, ← head?_filter, filter_remove_of_ne other, head?_filter, lookup]

lemma lookup_map (keeps : ∀ a, key (f a) = key a) (l) :
    lookup key k (l.map f) = (lookup key k l).map f := by
  rw [lookup, find?_map]
  congr 2
  funext a
  simp only [Function.comp_apply, keeps]

lemma lookup_append (front back) :
    lookup key k (front ++ back) = (lookup key k front).or (lookup key k back) := find?_append

lemma lookup_eq_none : lookup key k l = none ↔ ∀ a ∈ l, key a ≠ k := by
  simp [lookup]

lemma lookup_eq_some (distinct : (l.map key).Nodup) :
    lookup key k l = some a ↔ a ∈ l ∧ key a = k := by
  constructor
  · exact mem_of_lookup
  · intro found
    cases h : lookup key k l with
    | none => exact absurd found.2 (lookup_eq_none.mp h a found.1)
    | some b =>
      obtain ⟨mem, here⟩ := mem_of_lookup h
      have same := inj_on_of_nodup_map distinct mem found.1 (here.trans found.2.symm)
      rw [same]

lemma lookup_perm {others} (distinct : (l.map key).Nodup)
    (perm : l.Perm others) : lookup key k l = lookup key k others := by
  have distinct' : (others.map key).Nodup := (perm.map key).nodup_iff.mp distinct
  apply Option.ext
  intro a
  rw [lookup_eq_some distinct, lookup_eq_some distinct', perm.mem_iff]

lemma map_key_find?_update {p} (keeps : ∀ a, key a = k → key (f a) = k)
    (same : ∀ a, lookup key k l = some a → p (f a) = p a) :
    ((update key k f l).find? p).map key = (l.find? p).map key := by
  induction l with
  | nil => rfl
  | cons a rest ih =>
    by_cases here : key a = k
    · rw [update, if_pos here]
      have hSame := same a (lookup_cons_self here rest)
      cases hp : p a with
      | true =>
        rw [find?_cons_of_pos (hSame.trans hp), find?_cons_of_pos hp]
        exact congrArg some ((keeps a here).trans here.symm)
      | false =>
        rw [find?_cons_of_neg (by simp [hSame, hp]), find?_cons_of_neg (by simp [hp])]
    · rw [update, if_neg here]
      rw [lookup_cons_of_ne here] at same
      cases hp : p a with
      | true => rw [find?_cons_of_pos hp, find?_cons_of_pos hp]
      | false =>
        have skip : ¬ p a := by simp [hp]
        rw [find?_cons_of_neg skip, find?_cons_of_neg skip, ih same]

lemma map_update {β : Type*} {key' : β → κ} {g : α → β} {f' : β → β}
    (keys : ∀ a, key' (g a) = key a) (same : ∀ a ∈ l, key a = k → g (f a) = f' (g a)) :
    (update key k f l).map g = update key' k f' (l.map g) := by
  induction l with
  | nil => rfl
  | cons a rest ih =>
    rw [map_cons, update, update, keys]
    by_cases here : key a = k
    · rw [if_pos here, if_pos here, map_cons, same a mem_cons_self here]
    · rw [if_neg here, if_neg here, map_cons, ih fun b mem => same b (mem_cons_of_mem a mem)]

lemma update_id (l) : update key k id l = l := by
  induction l with
  | nil => rfl
  | cons a rest ih =>
    rw [update, ih]
    split <;> rfl

lemma update_of_lookup_none (absent : lookup key k l = none) : update key k f l = l := by
  induction l with
  | nil => rfl
  | cons a rest ih =>
    have other := lookup_eq_none.mp absent
    rw [update, if_neg (other a mem_cons_self),
      ih (lookup_eq_none.mpr fun b mem => other b (mem_cons_of_mem a mem))]

lemma filter_key (distinct : (l.map key).Nodup) :
    l.filter (fun a => key a = k) = (lookup key k l).toList := by
  induction l with
  | nil => rfl
  | cons a rest ih =>
    rw [map_cons, nodup_cons] at distinct
    by_cases here : key a = k
    · have others : rest.filter (fun a => key a = k) = [] := by
        refine filter_eq_nil_iff.mpr fun b mem same => distinct.1 ?_
        exact mem_map.mpr ⟨b, mem, (of_decide_eq_true same).trans here.symm⟩
      rw [filter_cons_of_pos (by simpa using here), others, lookup_cons_self here]
      rfl
    · rw [filter_cons_of_neg (by simpa using here), ih distinct.2, lookup_cons_of_ne here]

lemma perm_cons_update (h : lookup key k l = some a) :
    (update key k f l).Perm (f a :: remove key k l) := by
  induction l with
  | nil => cases h
  | cons b rest ih =>
    by_cases here : key b = k
    · rw [lookup_cons_self here] at h
      cases h
      rw [update, if_pos here, remove, eraseP_cons_of_pos (by simpa using here)]
    · rw [lookup_cons_of_ne here] at h
      rw [update, if_neg here, remove, eraseP_cons_of_neg (by simpa using here)]
      exact ((ih h).cons b).trans (List.Perm.swap ..)

lemma perm_cons_remove (h : lookup key k l = some a) : l.Perm (a :: remove key k l) := by
  have perm := perm_cons_update (f := id) h
  rwa [update_id] at perm

lemma lookup_remove_self (distinct : (l.map key).Nodup) : lookup key k (remove key k l) = none := by
  refine lookup_eq_none.mpr fun b mem same => ?_
  cases found : lookup key k l with
  | none => exact lookup_eq_none.mp found b (mem_of_mem_remove mem) same
  | some a =>
    have nodup := ((perm_cons_remove found).map key).nodup_iff.mp distinct
    rw [map_cons, nodup_cons] at nodup
    refine nodup.1 (mem_map.mpr ⟨b, mem, ?_⟩)
    exact same.trans (mem_of_lookup found).2.symm

lemma filter_remove_self (h : lookup key k l = some a) :
    l.filter (fun b => key b = k) = a :: (remove key k l).filter (fun b => key b = k) := by
  induction l with
  | nil => cases h
  | cons b rest ih =>
    by_cases here : key b = k
    · rw [lookup_cons_self here] at h
      cases h
      rw [remove, eraseP_cons_of_pos (by simpa using here),
        filter_cons_of_pos (by simpa using here)]
    · rw [lookup_cons_of_ne here] at h
      rw [remove, eraseP_cons_of_neg (by simpa using here),
        filter_cons_of_neg (by simpa using here), filter_cons_of_neg (by simpa using here), ih h]
      rfl

lemma getElem?_update (l n) : (update key k f l)[n]? =
      if n = l.findIdx (fun a => key a = k) then l[n]?.map f else l[n]? := by
  induction l generalizing n with
  | nil => simp [update]
  | cons a rest ih =>
    by_cases here : key a = k
    · rw [update, if_pos here, findIdx_cons]
      cases n <;> simp [here]
    · rw [update, if_neg here, findIdx_cons]
      cases n with
      | zero => simp [here]
      | succ n => simp [here, ih]

lemma map_key_remove (distinct : (l.map key).Nodup) :
    (remove key k l).map key = (l.map key).filter (· ≠ k) := by
  have erased : (l.map key).erase k = (remove key k l).map key := by
    rw [erase_eq_eraseP', eraseP_map]
    rfl
  rw [← erased, distinct.erase_eq_filter]
  simp only [bne, ne_eq, decide_not]
  rfl

lemma update_eq_map (distinct : (l.map key).Nodup) :
    update key k f l = l.map fun a => if key a = k then f a else a := by
  induction l with
  | nil => rfl
  | cons a rest ih =>
    rw [map_cons, nodup_cons] at distinct
    by_cases here : key a = k
    · rw [update, if_pos here, map_cons, if_pos here]
      have others : rest.map (fun b => if key b = k then f b else b) = rest.map id := by
        refine map_congr_left fun b mem => if_neg fun same => distinct.1 ?_
        rw [here, ← same]
        exact mem_map_of_mem mem
      rw [others, map_id]
    · rw [update, if_neg here, map_cons, if_neg here, ih distinct.2]

end KeyedList
