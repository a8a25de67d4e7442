import Mathlib.Algebra.GroupWithZero.Nat
import Mathlib.Data.Bool.Basic

/-!
# Lists in which one entry changes

The threads of a pool are a list, and most steps change one of them. Here is what
that does to the list, and to the number of entries with a property.
-/

namespace Threading

theorem modify_eq_set {α : Type} {l : List α} {i : Nat} {a : α} (h : l[i]? = some a) (f : α → α) :
    l.modify i f = l.set i (f a) := by
  apply List.ext_getElem?
  intro j
  rw [List.getElem?_modify, List.getElem?_set]
  split
  · next hij =>
    subst hij
    rw [h, if_pos (List.getElem?_eq_some_iff.1 h).1]
    rfl
  · simp

theorem set_self {α : Type} {l : List α} {i : Nat} {a : α} (h : l[i]? = some a) :
    l.set i a = l := by
  obtain ⟨hi, rfl⟩ := List.getElem?_eq_some_iff.1 h
  exact List.set_getElem_self hi

/-- The same entry of two lists changes. -/
theorem zip_set {α β : Type} (l : List α) (l' : List β) (i : Nat) (a : α) (b : β) :
    (l.set i a).zip (l'.set i b) = (l.zip l').set i (a, b) := by
  induction l generalizing l' i with
  | nil => rfl
  | cons c l ih =>
    cases l' with
    | nil => simp
    | cons d l' => cases i <;> simp [ih]

theorem getElem?_set_self_of_some {α : Type} {l : List α} {i : Nat} {a : α} (h : l[i]? = some a)
    (b : α) : (l.set i b)[i]? = some b := by
  rw [List.getElem?_set_self (List.getElem?_eq_some_iff.1 h).1]

/-- An entry is found by its second part, if all these are different. -/
theorem filter_snd_eq_singleton {α β : Type} [BEq β] [LawfulBEq β] {l : List (α × β)}
    (hn : (l.map Prod.snd).Nodup) {x : α × β} (hx : x ∈ l) : (l.filter fun y => y.2 == x.2) = [x] := by
  induction l with
  | nil => cases hx
  | cons z l ih =>
    obtain ⟨hz, hl⟩ := List.nodup_cons.1 hn
    rcases List.mem_cons.1 hx with rfl | hx
    · rw [List.filter_cons, if_pos (beq_self_eq_true x.2), List.filter_eq_nil_iff.2]
      exact fun y hy heq => hz (List.mem_map.2 ⟨y, hy, eq_of_beq heq⟩)
    · rw [List.filter_cons_of_neg, ih hl hx]
      exact fun heq => hz (List.mem_map.2 ⟨x, hx, (eq_of_beq heq).symm⟩)

/-- How many entries of a list have a property, after an entry was changed. -/
theorem countP_set_add {α : Type} {f : α → Bool} {l : List α} {i : Nat} {a : α}
    (h : l[i]? = some a) (b : α) :
    (l.set i b).countP f + (f a).toNat = l.countP f + (f b).toNat := by
  obtain ⟨hi, rfl⟩ := List.getElem?_eq_some_iff.1 h
  rw [List.countP_set hi]
  have hle : f l[i] = true → 0 < l.countP f := fun hf =>
    List.countP_pos_iff.2 ⟨_, List.getElem_mem hi, hf⟩
  cases hfa : f l[i] <;> cases hfb : f b <;> simp_all

/-- An entry that changes but not in what is counted. -/
theorem countP_set_of_eq {α : Type} {f : α → Bool} {l : List α} {i : Nat} {a b : α}
    (h : l[i]? = some a) (hf : f b = f a) : (l.set i b).countP f = l.countP f := by
  have hset := countP_set_add (f := f) h b
  rw [hf] at hset
  exact Nat.add_right_cancel hset

theorem countP_map_of_eq {α : Type} {f : α → Bool} {g : α → α} (h : ∀ a, f (g a) = f a)
    (l : List α) : (l.map g).countP f = l.countP f := by
  rw [List.countP_map]
  exact List.countP_congr fun a _ => by rw [Function.comp_apply, h a]

/-- Entries are counted kind by kind, if each is of one kind at most. -/
theorem countP_eq_add {α : Type} {f g k : α → Bool} {l : List α}
    (h : ∀ a ∈ l, (f a).toNat = (g a).toNat + (k a).toNat) :
    l.countP f = l.countP g + l.countP k := by
  induction l with
  | nil => rfl
  | cons a l ih =>
    obtain ⟨ha, hl⟩ := List.forall_mem_cons.1 h
    have hcons (f : α → Bool) : (a :: l).countP f = l.countP f + (f a).toNat := by
      rw [List.countP_cons]
      cases f a <;> rfl
    rw [hcons, hcons, hcons, ha, ih hl]
    omega

/-- What a list holds of the entries that count, after an entry was changed. -/
theorem perm_filterMap_set {α β : Type} {f : α → Option β} {l : List α} {i : Nat} {a : α}
    (h : l[i]? = some a) (b : α) :
    ((f a).toList ++ (l.set i b).filterMap f).Perm ((f b).toList ++ l.filterMap f) := by
  have hcons : ∀ (c : α) cs, List.filterMap f (c :: cs) = (f c).toList ++ cs.filterMap f := by
    intro c cs
    cases hc : f c <;> simp [hc]
  induction l generalizing i with
  | nil => simp at h
  | cons c l ih =>
    cases i with
    | zero =>
      obtain rfl : c = a := by simpa using h
      rw [List.set_cons_zero, hcons, hcons]
      exact List.perm_append_comm_assoc ..
    | succ i =>
      rw [List.set_cons_succ, hcons, hcons]
      have hc := (ih (by simpa using h)).append_left (f c).toList
      exact (List.perm_append_comm_assoc ..).trans (hc.trans (List.perm_append_comm_assoc ..))

theorem length_filterMap_set_add {α β : Type} {f : α → Option β} {l : List α} {i : Nat} {a : α}
    (h : l[i]? = some a) (b : α) :
    ((l.set i b).filterMap f).length + (f a).toList.length =
      (l.filterMap f).length + (f b).toList.length := by
  have hlength := (perm_filterMap_set (f := f) h b).length_eq
  rw [List.length_append, List.length_append] at hlength
  omega

theorem count_filterMap_set_add {α β : Type} [BEq β] {f : α → Option β} {l : List α} {i : Nat}
    {a : α} (h : l[i]? = some a) (b : α) (x : β) :
    ((l.set i b).filterMap f).count x + (f a).toList.count x =
      (l.filterMap f).count x + (f b).toList.count x := by
  have hcount := (perm_filterMap_set (f := f) h b).count_eq x
  rw [List.count_append, List.count_append] at hcount
  omega

/-- What lists hold together, after one of them was changed. -/
theorem perm_flatten_set {α : Type} {l : List (List α)} {i : Nat} {xs : List α}
    (h : l[i]? = some xs) (ys : List α) :
    (xs ++ (l.set i ys).flatten).Perm (ys ++ l.flatten) := by
  induction l generalizing i with
  | nil => simp at h
  | cons zs l ih =>
    cases i with
    | zero =>
      obtain rfl : zs = xs := by simpa using h
      exact List.perm_append_comm_assoc ..
    | succ i =>
      have hl := (ih (by simpa using h)).append_left zs
      exact (List.perm_append_comm_assoc ..).trans (hl.trans (List.perm_append_comm_assoc ..))

/-- What the entries of a list come to, after an entry was changed. -/
theorem sum_map_set_add {α : Type} {f : α → Nat} {l : List α} {i : Nat} {a : α}
    (h : l[i]? = some a) (b : α) :
    ((l.set i b).map f).sum + f a = (l.map f).sum + f b := by
  induction l generalizing i with
  | nil => simp at h
  | cons c l ih =>
    cases i with
    | zero =>
      obtain rfl : c = a := by simpa using h
      simp only [List.set_cons_zero, List.map_cons, List.sum_cons]
      omega
    | succ i =>
      have hl := ih (by simpa using h)
      simp only [List.set_cons_succ, List.map_cons, List.sum_cons]
      omega

/-- If no entry comes to more than `n`, then all of them come to that much each at most; and to
    less if one of them does. -/
theorem sum_map_le {α : Type} {f : α → Nat} {l : List α} {n : Nat} (h : ∀ a ∈ l, f a ≤ n) :
    (l.map f).sum ≤ l.length * n := by
  induction l with
  | nil => exact Nat.zero_le _
  | cons a l ih =>
    obtain ⟨ha, hl⟩ := List.forall_mem_cons.1 h
    have hrest := ih hl
    rw [List.map_cons, List.sum_cons, List.length_cons, Nat.succ_mul]
    omega

theorem sum_map_lt {α : Type} {f : α → Nat} {l : List α} {n : Nat} (h : ∀ a ∈ l, f a ≤ n) {a : α}
    (ha : a ∈ l) (hlt : f a < n) : (l.map f).sum < l.length * n := by
  induction l with
  | nil => cases ha
  | cons b l ih =>
    obtain ⟨hb, hl⟩ := List.forall_mem_cons.1 h
    rw [List.map_cons, List.sum_cons, List.length_cons, Nat.succ_mul]
    rcases List.mem_cons.1 ha with rfl | ha
    · have hrest := sum_map_le hl
      omega
    · have hrest := ih hl ha
      omega

/-- What two lists hold together, after all three grew. -/
theorem perm_append_append {α : Type} {xs ys zs xs' ys' zs' : List α} (h : xs.Perm (ys ++ zs))
    (h' : xs' = ys' ++ zs') : (xs ++ xs').Perm ((ys ++ ys') ++ (zs ++ zs')) := by
  rw [h', List.append_assoc ys]
  refine (h.append_right _).trans ?_
  rw [List.append_assoc ys]
  exact (List.perm_append_comm_assoc ..).append_left _

end Threading
