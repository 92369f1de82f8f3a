import ChatRelay.History

/-!
# Serving a page

To be served the first page of a thread counts as having read its newest message. The store is told
so if its record is not marked as read yet; a store that refuses does not take the page back.
-/

namespace ChatRelay

/-- What sets the read flag of a message in a bucket: gives the store with the flag, or fails. -/
abbrev Marker := Bucket → MessageId → Except StoreError Store

/-- Sets the flags of one user's records of one thread. -/
def Store.marker (s : Store) (user : UserId) (thread : ThreadId) : Marker := fun bucket id =>
  .ok (s.markRead user thread bucket id)

namespace Marker

/-- A marker that sets no flag. -/
def failing (reason : String) : Marker := fun _ _ => .error (.unavailable reason)

/-- A store after the flag of a record was to be set, or none. -/
def mark (marker : Marker) (s : Store) : Option Record → Store
  | none => s
  | some record =>
    match marker record.bucket record.messageId with
    | .ok store => store
    | .error _ => s

end Marker

/-- An outcome with what was asked for on the way to it and what it left behind. -/
structure Serving where
  calls : List HistoryCall
  /-- The record whose flag was to be set, if one was. -/
  marked : Option Record
  outcome : Except HistoryError HistoryPage
  store : Store

namespace History

/-- Serves a page from a store: fetches it, and has its first record marked as read if it counts as
such and is not. -/
def serve (h : History) (s : Store) (reader : Reader) (marker : Marker) (lookUp : ThreadLookup)
    (now : Millis) (thread : ThreadId) (query : HistoryQuery) : Serving :=
  match h.fetchMarking reader lookUp now thread query with
  | (calls, .error e) => { calls, marked := none, outcome := .error e, store := s }
  | (calls, .ok (page, marked)) =>
    { calls, marked, outcome := .ok page, store := marker.mark s marked }

variable {h : History} {reader : Reader} {lookUp : ThreadLookup} {now : Millis} {thread : ThreadId}
  {query : HistoryQuery}

theorem serve_of_error (s : Store) (marker : Marker) {error : HistoryError}
    (herror : (h.fetch reader lookUp now thread query).outcome = .error error) :
    h.serve s reader marker lookUp now thread query =
      { calls := (h.fetch reader lookUp now thread query).calls, marked := none
        outcome := .error error, store := s } := by
  rw [serve, fetchMarking, herror]
  rfl

theorem serve_of_ok (s : Store) (marker : Marker) {page : HistoryPage}
    (hpage : (h.fetch reader lookUp now thread query).outcome = .ok page) :
    h.serve s reader marker lookUp now thread query =
      { calls := (h.fetch reader lookUp now thread query).calls
        marked := (page.markFirst query).2
        outcome := .ok (page.markFirst query).1
        store := marker.mark s (page.markFirst query).2 } := by
  rw [serve, fetchMarking, hpage]
  rfl

end History

end ChatRelay
