/-!
# Searching a list in order

A search asks of elements of a list whether they come before what is sought (`lt`), are what is
sought (`eq`) or come after it (`gt`). On a list in that order it finds the element or the position
where it belongs (`found_searchBy`), although it looks at few elements: each round leaves out half
of those that are left. `putAt` is what is done with a position that was found.
-/

namespace ChatRelay

universe u v

variable {α : Type u} {β : Type v} {order : α → Ordering} {list : List α}

/-- The position at which a search ends that begins with the `size` elements from `base` on. A round
leaves one of them out at least, so that there are no more rounds than elements. -/
def narrow (order : α → Ordering) (list : List α) (rounds base size : Nat) : Nat :=
  match rounds with
  | 0 => base
  | rounds + 1 =>
    if size ≤ 1 then base
    else
      let middle := base + size / 2
      let base := if list[middle]?.map order = some .gt then base else middle
      narrow order list rounds base (size - size / 2)

/-- The position of the element that is sought, or the one where it belongs if there is none. -/
def searchBy (order : α → Ordering) (list : List α) : Except Nat Nat :=
  let base := narrow order list list.length 0 list.length
  match list[base]?.map order with
  | none => .error base
  | some .eq => .ok base
  | some .lt => .error (base + 1)
  | some .gt => .error base

/-- The position where a list goes over from the elements that come first to the others. -/
def partitionPoint (first : α → Bool) (list : List α) : Nat :=
  match searchBy (fun x => if first x then .lt else .gt) list with
  | .ok position => position
  | .error position => position

/-- The list with an element at the position that was found for it: instead of the one that is
there, or in front of those from there on. -/
def putAt (x : α) (list : List α) : Except Nat Nat → List α
  | .ok position => list.set position x
  | .error position => list.take position ++ x :: list.drop position

/-- Whether a list is in an order: what comes before what is sought does so in the list, and what
comes after it too. -/
def InOrder (order : α → Ordering) (list : List α) : Prop :=
  list.Pairwise fun a b => (order b = .lt → order a = .lt) ∧ (order a = .gt → order b = .gt)

/-- What a search may find: the position of an element that is sought, or the position between what
comes before it and what comes after it. -/
inductive Found (order : α → Ordering) (list : List α) : Except Nat Nat → Prop
  | present {position : Nat} {x : α} (hx : list[position]? = some x) (heq : order x = .eq) :
    Found order list (.ok position)
  | missing {position : Nat} (hbefore : ∀ x ∈ list.take position, order x = .lt)
    (hafter : ∀ x ∈ list.drop position, order x = .gt) : Found order list (.error position)

/-! ## The rounds of a search -/

/-- What a round leaves of a list: the first element that is left does not come after what is
sought unless it is the first of all, and every element behind those that are left does. -/
structure Narrowed (order : α → Ordering) (list : List α) (base size : Nat) : Prop where
  le : base + size ≤ list.length
  start : base = 0 ∨ list[base]?.map order ≠ some .gt
  stop : ∀ i x, base + size ≤ i → list[i]? = some x → order x = .gt

theorem narrowed_start : Narrowed order list 0 list.length where
  le := by omega
  start := .inl rfl
  stop i x hi hx := by
    have hlt := (List.getElem?_eq_some_iff.1 hx).1
    omega

namespace InOrder

variable (h : InOrder order list) {i j : Nat} {x y : α}
include h

theorem order_eq_lt (hij : i ≤ j) (hx : list[i]? = some x) (hy : list[j]? = some y)
    (hlt : order y = .lt) : order x = .lt := by
  obtain ⟨hi, rfl⟩ := List.getElem?_eq_some_iff.1 hx
  obtain ⟨hj, rfl⟩ := List.getElem?_eq_some_iff.1 hy
  rcases Nat.eq_or_lt_of_le hij with rfl | hij
  · exact hlt
  · exact (List.pairwise_iff_getElem.1 h i j hi hj hij).1 hlt

theorem order_eq_gt (hij : i ≤ j) (hx : list[i]? = some x) (hy : list[j]? = some y)
    (hgt : order x = .gt) : order y = .gt := by
  obtain ⟨hi, rfl⟩ := List.getElem?_eq_some_iff.1 hx
  obtain ⟨hj, rfl⟩ := List.getElem?_eq_some_iff.1 hy
  rcases Nat.eq_or_lt_of_le hij with rfl | hij
  · exact hgt
  · exact (List.pairwise_iff_getElem.1 h i j hi hj hij).2 hgt

/-- **A search ends at one element**, if there is one, and what it has left out is on the right
side of that. -/
theorem narrowed_narrow {rounds base size : Nat} (hrounds : size ≤ rounds + 1)
    (hpart : Narrowed order list base size) :
    Narrowed order list (narrow order list rounds base size) (min size 1) := by
  induction rounds generalizing base size with
  | zero =>
    rw [narrow, Nat.min_eq_left (by omega)]
    exact hpart
  | succ rounds ih =>
    rw [narrow]
    split
    next hsmall =>
      rw [Nat.min_eq_left hsmall]
      exact hpart
    next hlarge =>
      have hmin : min size 1 = min (size - size / 2) 1 := by omega
      have hle := hpart.le
      rw [hmin]
      refine ih (by omega) ?_
      split
      next hmiddle =>
        -- the middle comes after what is sought, and so does all that is behind it
        obtain ⟨x, hx, hgt⟩ := Option.map_eq_some_iff.1 hmiddle
        refine ⟨by omega, hpart.start, fun i y hi hy => ?_⟩
        exact h.order_eq_gt (by omega) hx hy hgt
      next hmiddle =>
        exact ⟨by omega, .inr hmiddle, fun i y hi hy => hpart.stop i y (by omega) hy⟩

/-- **A search of a list in order finds** what is sought, or where it belongs. -/
theorem found_searchBy : Found order list (searchBy order list) := by
  have hend : Narrowed order list (narrow order list list.length 0 list.length)
      (min list.length 1) := h.narrowed_narrow (by omega) narrowed_start
  rw [searchBy]
  generalize narrow order list list.length 0 list.length = base at hend
  cases hbase : list[base]? with
  | none =>
    -- no element is left, so there is none
    have hlength := List.getElem?_eq_none_iff.1 hbase
    have hle := hend.le
    obtain rfl : list = [] := List.eq_nil_of_length_eq_zero (by omega)
    exact .missing (by simp) (by simp)
  | some x =>
    have hbehind {i : Nat} {y : α} (hi : base + 1 ≤ i) (hy : list[i]? = some y) :
        order y = .gt := hend.stop i y (by omega) hy
    rw [Option.map_some]
    cases hx : order x with
    | eq => exact .present hbase hx
    | lt =>
      refine .missing (fun y hy => ?_) fun y hy => ?_
      · obtain ⟨i, hi, rfl⟩ := List.mem_take_iff_getElem.1 hy
        exact h.order_eq_lt (by omega) (List.getElem?_eq_getElem _) hbase hx
      · obtain ⟨i, hi, rfl⟩ := List.mem_drop_iff_getElem.1 hy
        exact hbehind (by omega) (List.getElem?_eq_getElem _)
    | gt =>
      -- the search has not moved on, so this is the first element
      obtain rfl : base = 0 := hend.start.resolve_right fun hne => hne (by rw [hbase]; simp [hx])
      refine .missing (by simp) fun y hy => ?_
      obtain ⟨i, hi, rfl⟩ := List.mem_drop_iff_getElem.1 hy
      exact h.order_eq_gt (Nat.zero_le _) hbase (List.getElem?_eq_getElem _) hx

end InOrder

/-- **A list is divided where it goes over** from the elements that come first to the others. -/
theorem partitionPoint_divides {first : α → Bool}
    (h : list.Pairwise fun a b => first b = true → first a = true) :
    (∀ x ∈ list.take (partitionPoint first list), first x = true) ∧
      ∀ x ∈ list.drop (partitionPoint first list), first x = false := by
  have horder : InOrder (fun x => if first x then .lt else .gt) list := h.imp fun {a b} hab => by
    cases ha : first a <;> cases hb : first b <;> simp_all
  rw [partitionPoint]
  generalize hfound : searchBy _ list = found
  cases hfound ▸ horder.found_searchBy with
  | present hx heq => split at heq <;> cases heq
  | missing hbefore hafter => exact ⟨by simpa using hbefore, by simpa using hafter⟩

/-! ## Lists of other elements -/

theorem narrow_map (f : β → α) (list : List β) (rounds base size : Nat) :
    narrow order (list.map f) rounds base size =
      narrow (fun x => order (f x)) list rounds base size := by
  induction rounds generalizing base size with
  | zero => rfl
  | succ rounds ih => simp only [narrow, List.getElem?_map, Option.map_map, Function.comp_def, ih]

/-- What a search finds depends on the answers alone. -/
theorem searchBy_map (f : β → α) (list : List β) :
    searchBy order (list.map f) = searchBy (fun x => order (f x)) list := by
  simp only [searchBy, narrow_map, List.length_map, List.getElem?_map, Option.map_map,
    Function.comp_def]

theorem partitionPoint_map (first : α → Bool) (f : β → α) (list : List β) :
    partitionPoint first (list.map f) = partitionPoint (fun x => first (f x)) list := by
  rw [partitionPoint, partitionPoint, searchBy_map]

/-- What is put into a list is there, and nothing else is new. -/
theorem mem_putAt {x y : α} {found : Except Nat Nat} (h : y ∈ putAt x list found) :
    y = x ∨ y ∈ list := by
  cases found with
  | ok position => exact (List.mem_or_eq_of_mem_set h).symm
  | error position =>
    rcases List.mem_append.1 h with h | h
    · exact .inr (List.mem_of_mem_take h)
    · exact (List.mem_cons.1 h).imp_right List.mem_of_mem_drop

end ChatRelay
