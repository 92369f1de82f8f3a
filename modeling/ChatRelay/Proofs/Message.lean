import ChatRelay.Message
import Mathlib.Data.List.Basic

/-!
# Who receives a message

The recipients of a message are the members that are listed, less its author, and each is named once
(`mem_recipients`, `recipients_nodup`), where the list names them first (`recipients_eq_eraseDups`,
`recipients_pairwise_idxOf`). So lists that name the same members give the same recipients in some
order (`recipients_perm`).
-/

namespace ChatRelay

variable {name author : UserId}

theorem mem_newNames {seen names : List UserId} :
    name ∈ newNames seen names ↔ name ∈ names ∧ name ∉ seen := by
  induction names generalizing seen with
  | nil => simp [newNames]
  | cons head names ih =>
    rw [newNames]
    split
    next hseen =>
      rw [ih, List.mem_cons]
      constructor
      · rintro ⟨hname, hnot⟩
        exact ⟨.inr hname, hnot⟩
      · rintro ⟨rfl | hname, hnot⟩
        · exact absurd hseen hnot
        · exact ⟨hname, hnot⟩
    next hseen =>
      rw [List.mem_cons, List.mem_cons, ih, List.mem_cons]
      constructor
      · rintro (rfl | ⟨hname, hnot⟩)
        · exact ⟨.inl rfl, hseen⟩
        · exact ⟨.inr hname, fun h => hnot (.inr h)⟩
      · rintro ⟨rfl | hname, hnot⟩
        · exact .inl rfl
        · by_cases heq : name = head
          · exact .inl heq
          · exact .inr ⟨hname, by simp [heq, hnot]⟩

theorem newNames_nodup (seen names : List UserId) : (newNames seen names).Nodup := by
  induction names generalizing seen with
  | nil => exact List.nodup_nil
  | cons head names ih =>
    rw [newNames]
    split
    · exact ih seen
    · refine List.nodup_cons.2 ⟨fun h => ?_, ih (head :: seen)⟩
      exact (mem_newNames.1 h).2 List.mem_cons_self

/-- Names that have come before are left out, and so is a name that comes again. -/
theorem newNames_eq_eraseDups (seen names : List UserId) :
    newNames seen names = (names.filter (· ∉ seen)).eraseDups := by
  induction names generalizing seen with
  | nil => rfl
  | cons head names ih =>
    rw [newNames]
    split
    next hseen => rw [ih, List.filter_cons_of_neg (by simpa using hseen)]
    next hseen =>
      rw [ih, List.filter_cons_of_pos (by simpa using hseen), List.eraseDups_cons,
        List.filter_filter]
      simp only [List.mem_cons, not_or, Bool.decide_and, decide_not, beq_eq_decide]

/-- The names come as they come first in the list. -/
theorem newNames_pairwise_idxOf (seen names : List UserId) :
    (newNames seen names).Pairwise fun a b => names.idxOf a < names.idxOf b := by
  induction names generalizing seen with
  | nil => exact .nil
  | cons head names ih =>
    -- a name other than the head comes one place later than in the rest
    have hrest {seen' : List UserId} (hhead : head ∈ seen') :
        (newNames seen' names).Pairwise fun a b =>
          (head :: names).idxOf a < (head :: names).idxOf b := by
      refine (ih seen').imp_of_mem fun {a b} ha hb hlt => ?_
      have hne {name : UserId} (hname : name ∈ newNames seen' names) : head ≠ name := by
        rintro rfl
        exact (mem_newNames.1 hname).2 hhead
      rw [List.idxOf_cons_ne _ (hne ha), List.idxOf_cons_ne _ (hne hb)]
      exact Nat.succ_lt_succ hlt
    rw [newNames]
    split
    next hseen => exact hrest hseen
    next hseen =>
      refine List.pairwise_cons.2 ⟨fun name hname => ?_, hrest List.mem_cons_self⟩
      have hne : head ≠ name := by
        rintro rfl
        exact (mem_newNames.1 hname).2 List.mem_cons_self
      rw [List.idxOf_cons_self, List.idxOf_cons_ne _ hne]
      exact Nat.succ_pos _

/-- Everybody who is listed receives a message, but for its author. -/
theorem mem_recipients {members : List UserId} :
    name ∈ recipients author members ↔ name ∈ members ∧ name ≠ author := by
  rw [recipients, mem_newNames, List.mem_singleton]

/-- A message reaches its author and everybody who is listed. -/
theorem author_or_mem_recipients {members : List UserId} :
    author = name ∨ name ∈ recipients author members ↔ author = name ∨ name ∈ members := by
  rw [mem_recipients]
  constructor
  · rintro (hauthor | ⟨hmember, -⟩)
    · exact .inl hauthor
    · exact .inr hmember
  · rintro (hauthor | hmember)
    · exact .inl hauthor
    · by_cases hauthor : author = name
      · exact .inl hauthor
      · exact .inr ⟨hmember, Ne.symm hauthor⟩

/-- Nobody receives a message twice. -/
theorem recipients_nodup (author : UserId) (members : List UserId) :
    (recipients author members).Nodup := newNames_nodup [author] members

/-- **The recipients are the members other than the author, each at its first occurrence.** -/
theorem recipients_eq_eraseDups (author : UserId) (members : List UserId) :
    recipients author members = (members.filter (· ≠ author)).eraseDups := by
  rw [recipients, newNames_eq_eraseDups]
  simp only [List.mem_singleton]

/-- The recipients come as they come first in the list. -/
theorem recipients_pairwise_idxOf (author : UserId) (members : List UserId) :
    (recipients author members).Pairwise fun a b => members.idxOf a < members.idxOf b :=
  newNames_pairwise_idxOf [author] members

/-- **Lists that name the same members but for the author give the same recipients**, in some
order. -/
theorem recipients_perm {members members' : List UserId}
    (h : ∀ name, name ≠ author → (name ∈ members ↔ name ∈ members')) :
    (recipients author members).Perm (recipients author members') := by
  refine (List.perm_ext_iff_of_nodup (recipients_nodup _ _) (recipients_nodup _ _)).2 fun name => ?_
  rw [mem_recipients, mem_recipients]
  exact and_congr_left fun hname => h name hname

end ChatRelay
