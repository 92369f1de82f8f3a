import ChatRelay.Proofs.Server.ReadFlags
import ChatRelay.Proofs.Server.Watching

/-!
# What users do to each other

What a server has of a user, and what it would show them of a thread's past, make up the user's view
(`Server.View`). No event of another user changes it, unless it lists the user as a member: then an
indicator may change the queue of the user's live session, and a message that queue and the one
partition that it is filed in (`isolated_run`). That queues are the users' own rests on the sessions
being in step.
-/

namespace ChatRelay

/-- The user who brings an event about. -/
def Event.user : Event → UserId
  | .opening _ user _ _ => user
  | .closing user _ => user
  | .frame _ user _ => user

/-- The members that a frame lists. -/
def ClientFrame.members : ClientFrame → List UserId
  | .send _ _ _ members _ => members
  | .typing _ _ members => members
  | _ => []

/-- The members that an event lists. -/
def Event.members : Event → List UserId
  | .frame _ _ request => request.members
  | _ => []

namespace Server

/-- What a server has of a user and shows to them. -/
@[ext] structure View where
  /-- The live session with its subscriptions. -/
  session : Option Session
  /-- The queue of the live session. -/
  queue : Option Queue
  /-- What is stored. -/
  partition : ThreadId → Bucket → Partition
  /-- The replies to requests for a history. -/
  history : Clock → RequestId → ThreadId → HistoryQuery → Option ServerFrame

/-- The view of a user. -/
def view (s : Server) (user : UserId) : View where
  session := s.registry.session? user
  queue := (s.outbox? user).bind s.queue?
  partition := s.store.partition user
  history clock id thread query := (s.handle clock user (.history id thread query)).map (·.frame)

variable {s s' s₀ : Server} {events : List Event} {event : Event} {reply : Option ServerFrame}
  {user : UserId} {thread : ThreadId} {config : Config} {host : Host} {now : Millis}
  {log : List Entry}

/-! ## Sessions and queues -/

/-- Only its user changes a session. -/
theorem session?_step (hstep : s.step event = some (reply, s')) (huser : event.user ≠ user) :
    s'.registry.session? user = s.registry.session? user := by
  rw [registry_step hstep]
  cases hcall : event.call? with
  | none => rfl
  | some c =>
    have hnamed : c.user = event.user := by
      cases event with
      | frame clock sender frame => cases frame <;> cases hcall <;> rfl
      | _ => cases hcall; rfl
    exact (s.registry.session?_call c user).trans (if_neg (hnamed ▸ huser))

/-- Letters go to members. -/
theorem mem_members_of_mem_postings {clock : Clock} {sender : UserId} {frame : ClientFrame}
    {letter : Letter} (h : letter ∈ s.postings clock sender frame) : letter.1 ∈ frame.members := by
  cases frame with
  | send id thread name members body =>
    rw [postings] at h
    split at h
    · obtain ⟨target, htarget, hletter⟩ := List.mem_filterMap.1 h
      obtain ⟨frame, -, rfl⟩ := Option.map_eq_some_iff.1 hletter
      exact (mem_recipients.1 htarget).1
    · exact absurd h List.not_mem_nil
  | typing id thread members =>
    obtain ⟨target, htarget, rfl⟩ := List.mem_map.1 h
    exact (mem_recipients.1 (List.mem_filter.1 htarget).1).1
  | _ => exact absurd h List.not_mem_nil

/-- Only its user and whoever lists them change the queue of a live session. -/
theorem InStep.queue_step (h : InStep events s) (hfresh : (opened (events ++ [event])).Nodup)
    (hstep : s.step event = some (reply, s')) (huser : event.user ≠ user)
    (hmember : user ∉ event.members) : (s'.view user).queue = (s.view user).queue := by
  have hearlier := nodup_opened_of_append hfresh
  cases event with
  | opening now opener address session =>
    obtain ⟨rfl, rfl⟩ := Prod.mk.inj (Option.some.inj hstep)
    have hkept : (s.openSession now opener address session).outbox? user = s.outbox? user := by
      rw [outbox?_openSession]
      exact if_neg huser
    simp only [view, hkept]
    cases houtbox : s.outbox? user with
    | none => rfl
    | some live =>
      have hne : session ≠ live := by
        rintro rfl
        rw [opened_concat] at hfresh
        exact (List.nodup_append.1 hfresh).2.2 session ((h.live user session).1 houtbox).mem_opened
          session (List.mem_singleton_self _) rfl
      have hother : s.outbox? opener ≠ some live := fun hsame =>
        huser (h.user_unique hearlier houtbox hsame)
      rw [Option.bind_some, queue?_openSession, if_neg hne, if_neg hother]
      rfl
  | closing closer session =>
    obtain ⟨rfl, rfl⟩ := Prod.mk.inj (Option.some.inj hstep)
    have hkept : (s.closeSession closer session).outbox? user = s.outbox? user := by
      rw [outbox?_closeSession, if_neg fun hsame => huser hsame.1]
    simp only [view, hkept]
    cases houtbox : s.outbox? user with
    | none => rfl
    | some live =>
      rw [Option.bind_some, queue?_closeSession, if_neg]
      · rfl
      · rintro ⟨hsame, rfl⟩
        exact huser (h.user_unique hearlier houtbox hsame)
  | frame clock sender frame =>
    rcases step_frame_eq_some_iff.1 hstep with ⟨-, -, rfl⟩ | ⟨answer, hanswer, -, rfl⟩
    · rfl
    have hposts := handle_postings hanswer
    simp only [view, hposts.outbox?]
    cases houtbox : s.outbox? user with
    | none => rfl
    | some live =>
      refine hposts.queue?_of_mail_eq_nil (mail_eq_nil fun letter hletter hsame => hmember ?_)
      obtain rfl := h.user_unique hearlier houtbox hsame
      exact mem_members_of_mem_postings hletter

/-! ## Records and histories -/

/-- Only its user and whoever sends a message to them change what is stored. -/
theorem partition_step (hstep : s.step event = some (reply, s')) (huser : event.user ≠ user)
    (hmember : user ∉ event.members) : s'.store.partition user = s.store.partition user := by
  by_cases hsend : ∃ clock sender id thread name members body,
      event = .frame clock sender (.send id thread name members body)
  · obtain ⟨clock, sender, id, thread, name, members, body, rfl⟩ := hsend
    obtain ⟨answer, hanswer, -, rfl⟩ := answer_of_step hstep nofun
    obtain ⟨minting, -, ⟨e, -, -, hserver⟩ | ⟨messageId, -, hframe, -⟩⟩ := send_cases hanswer
    · rw [hserver]
      rfl
    · funext thread' bucket
      rw [send_partition hanswer hframe, if_neg fun hkey => hkey.1.elim huser hmember]
  by_cases hhistory : ∃ clock sender id thread query,
      event = .frame clock sender (.history id thread query)
  · obtain ⟨clock, sender, id, thread, query, rfl⟩ := hhistory
    rcases step_frame_eq_some_iff.1 hstep with ⟨-, -, rfl⟩ | ⟨answer, hanswer, -, rfl⟩
    · rfl
    rcases history_cases hanswer with ⟨hstore, -⟩ | ⟨first, -, -, ⟨-, hstore⟩ | hstore⟩
    · rw [hstore]
    · rw [hstore]
    · rw [hstore]
      funext thread' bucket
      rw [Store.partition_markRead, if_neg fun hkey => huser hkey.1]
  · rw [step_store hstep (by simpa using hsend) (by simpa using hhistory)]

/-- No event changes how histories are read. -/
theorem history_step (hstep : s.step event = some (reply, s')) : s'.history = s.history := by
  by_cases hsend : ∃ clock sender id thread name members body,
      event = .frame clock sender (.send id thread name members body)
  · obtain ⟨clock, sender, id, thread, name, members, body, rfl⟩ := hsend
    obtain ⟨answer, hanswer, -, rfl⟩ := answer_of_step hstep nofun
    obtain ⟨-, -, -, -, hhistory⟩ := send_kept hanswer
    exact hhistory
  cases event with
  | opening now opener address session =>
    obtain ⟨-, rfl⟩ := Prod.mk.inj (Option.some.inj hstep)
    exact (s.openSession_alike now opener address session).history
  | closing closer session =>
    obtain ⟨-, rfl⟩ := Prod.mk.inj (Option.some.inj hstep)
    exact (s.closeSession_alike closer session).history
  | frame clock sender frame =>
    rcases step_frame_eq_some_iff.1 hstep with ⟨-, -, rfl⟩ | ⟨answer, hanswer, -, rfl⟩
    · rfl
    refine (handle_alike ?_ hanswer).history
    rintro id thread name members body rfl
    exact hsend ⟨_, _, _, _, _, _, _, rfl⟩

/-- What a user is shown of a thread depends on what is stored for them on it. -/
theorem history_view_congr (hhistory : s'.history = s.history)
    (hpartition : s'.store.partition user thread = s.store.partition user thread) (clock : Clock)
    (id : RequestId) (query : HistoryQuery) :
    (s'.view user).history clock id thread query = (s.view user).history clock id thread query := by
  have hreader : s'.store.reader user thread = s.store.reader user thread := by
    funext question
    cases question with
    | page bucket limit cursor => cases cursor <;> simp only [Store.reader, hpartition]
    | before bucket limit id => simp only [Store.reader, hpartition]
  simp only [view, handle, sendHistory, Option.map_map, hhistory, hreader]
  split <;> rfl

/-! ## Views -/

/-- **Nobody changes the view of another user** without listing them. -/
theorem InStep.view_step (h : InStep events s) (hfresh : (opened (events ++ [event])).Nodup)
    (hstep : s.step event = some (reply, s')) (huser : event.user ≠ user)
    (hmember : user ∉ event.members) : s'.view user = s.view user := by
  have hsession : (s'.view user).session = (s.view user).session := session?_step hstep huser
  have hqueue := h.queue_step hfresh hstep huser hmember
  have hpartition : (s'.view user).partition = (s.view user).partition :=
    partition_step hstep huser hmember
  have hhistory : (s'.view user).history = (s.view user).history := by
    funext clock id thread query
    exact history_view_congr (history_step hstep) (congrFun hpartition thread) clock id query
  exact View.ext hsession hqueue hpartition hhistory

/-- A server with the same sessions and records has the same view of a user but for the queue. -/
theorem view_congr (s s' : Server) (hregistry : s'.registry = s.registry)
    (hstore : s'.store = s.store) (hhistory : s'.history = s.history) (user : UserId) :
    s'.view user = { s.view user with queue := (s'.view user).queue } := by
  refine View.ext (congrArg (Registry.session? · user) hregistry) rfl
    (congrArg (Store.partition · user) hstore) ?_
  funext clock id thread query
  exact history_view_congr hhistory (congrArg (Store.partition · user thread) hstore) clock id query

/-- What a generator does and what is recorded is in nobody's view. -/
theorem view_minted (s : Server) (generator : Generator) (change : Metrics → Metrics)
    (user : UserId) :
    ({ s with generator : Server }.record change).view user = s.view user :=
  s.view_congr ({ s with generator : Server }.record change) rfl rfl rfl user

/-- Whoever is typing changes at most queues. -/
theorem view_typing (s : Server) (sender : UserId) (thread : ThreadId) (members : List UserId)
    (user : UserId) :
    (s.sendTyping sender thread members).2.view user =
      { s.view user with queue := ((s.sendTyping sender thread members).2.view user).queue } :=
  s.view_congr _ (s.sendTyping_kept push_registry sender thread members)
    (s.sendTyping_kept push_store sender thread members)
    (s.sendTyping_alike sender thread members).history user

/-- A message changes at most, for those who are listed, what is queued, one partition and what is
shown of its thread. If it is not acknowledged it changes nothing for anybody else. -/
theorem view_send {clock : Clock} {sender : UserId} {id : RequestId} {thread : ThreadId}
    {name : Option String} {members : List UserId} {body : String} {answer : Reply}
    (h : s.handle clock sender (.send id thread name members body) = some answer)
    (huser : sender ≠ user) :
    (answer.server.view user).session = (s.view user).session ∧
      ((∃ reason, answer.frame = .error id .idUnavailable reason) ∧
          answer.server.view user = s.view user ∨
        ∃ messageId, answer.frame = .ack id (some messageId) ∧
          (∀ thread' bucket, (thread', bucket) ≠ (thread, s.index.ofId messageId) →
            (answer.server.view user).partition thread' bucket =
              (s.view user).partition thread' bucket) ∧
          ∀ clock id' thread' query, thread' ≠ thread →
            (answer.server.view user).history clock id' thread' query =
              (s.view user).history clock id' thread' query) := by
  have hstep := step_of_handle h
  have hsession := session?_step hstep huser
  have hhistory := history_step hstep
  refine ⟨hsession, ?_⟩
  obtain ⟨minting, -, ⟨e, -, hframe, hserver⟩ | ⟨messageId, -, hframe, -⟩⟩ := send_cases h
  · rw [hserver]
    exact .inl ⟨⟨e.message, hframe⟩, s.view_minted minting.generator _ user⟩
  · have hpartition (thread' : ThreadId) (bucket : Bucket)
        (hother : (thread', bucket) ≠ (thread, s.index.ofId messageId)) :
        answer.server.store.partition user thread' bucket =
          s.store.partition user thread' bucket := by
      rw [send_partition h hframe, if_neg]
      rintro ⟨-, rfl, rfl⟩
      exact hother rfl
    refine .inr ⟨messageId, hframe, hpartition, fun clock id' thread' query hthread => ?_⟩
    refine history_view_congr hhistory (funext fun bucket => hpartition thread' bucket ?_) clock id'
      query
    exact fun hsame => hthread (Prod.mk.inj hsame).1

/-- **Users do not interfere.** After every run, an event of another user leaves a user's view as it
is if it does not list the user as a member. If it does, an indicator changes at most the queue of
their live session; a message leaves the session, every other partition and what is shown of other
threads as they are, and the whole view if it is not acknowledged. -/
theorem isolated_run (hstart : start config host now = .ok s₀)
    (hrun : s₀.run events = some (log, s)) (hfresh : (opened (events ++ [event])).Nodup)
    (hstep : s.step event = some (reply, s')) (huser : event.user ≠ user) :
    (user ∉ event.members → s'.view user = s.view user) ∧
    (∀ clock sender id thread members, event = .frame clock sender (.typing id thread members) →
      s'.view user = { s.view user with queue := (s'.view user).queue }) ∧
    ∀ clock sender id thread name members body,
      event = .frame clock sender (.send id thread name members body) →
      (s'.view user).session = (s.view user).session ∧
      ((∃ reason, reply = some (.error id .idUnavailable reason)) ∧ s'.view user = s.view user ∨
        ∃ messageId, reply = some (.ack id (some messageId)) ∧
          (∀ thread' bucket, (thread', bucket) ≠ (thread, s.index.ofId messageId) →
            (s'.view user).partition thread' bucket = (s.view user).partition thread' bucket) ∧
          ∀ clock id' thread' query, thread' ≠ thread →
            (s'.view user).history clock id' thread' query =
              (s.view user).history clock id' thread' query) := by
  have hearlier := nodup_opened_of_append hfresh
  refine ⟨(inStep_run hstart hrun hearlier).view_step hfresh hstep huser, ?_, ?_⟩
  · rintro clock sender id thread members rfl
    obtain ⟨answer, hanswer, -, rfl⟩ := answer_of_step hstep nofun
    obtain rfl := Option.some.inj hanswer
    exact s.view_typing sender thread members user
  · rintro clock sender id thread name members body rfl
    obtain ⟨answer, hanswer, rfl, rfl⟩ := answer_of_step hstep nofun
    simpa only [Option.some.injEq] using view_send hanswer huser

/-- What the general statement says of a message that lists one of two other users. -/
theorem isolated_run_message :
    ∃ log s s', secondsServer.run (audience.map (·.event)) = some (log, s) ∧
      s.step (.frame ⟨1500, []⟩ "ann" (.send 3 ⟨0⟩ none ["bob"] "hi")) =
        some (some (.ack 3 (some (.pack 1500 1 1))), s') ∧
      s'.view "carl" = s.view "carl" ∧
      (s'.view "bob").session = (s.view "bob").session ∧
      ∀ thread' bucket, (thread', bucket) ≠ (⟨0⟩, s.index.ofId (.pack 1500 1 1)) →
        (s'.view "bob").partition thread' bucket = (s.view "bob").partition thread' bucket := by
  have hstart : start seconds {} 1000 = .ok secondsServer := rfl
  have hfresh : (opened (audience.map (·.event) ++
      [.frame ⟨1500, []⟩ "ann" (.send 3 ⟨0⟩ none ["bob"] "hi")])).Nodup := by decide
  have hacked : (secondsServer.run (audience.map (·.event))).bind (fun after =>
      (after.2.step (.frame ⟨1500, []⟩ "ann" (.send 3 ⟨0⟩ none ["bob"] "hi"))).map (·.1)) =
      some (some (.ack 3 (some (.pack 1500 1 1)))) := by decide
  obtain ⟨⟨log, s⟩, hrun, hacked⟩ := Option.bind_eq_some_iff.1 hacked
  obtain ⟨⟨reply, s'⟩, hstep, rfl⟩ := Option.map_eq_some_iff.1 hacked
  have hother : "ann" ≠ "carl" ∧ "ann" ≠ "bob" := by decide
  obtain ⟨hcarl, -, -⟩ := isolated_run hstart hrun hfresh hstep hother.1
  obtain ⟨-, -, hbob⟩ := isolated_run hstart hrun hfresh hstep hother.2
  obtain ⟨hsession, hmessage⟩ := hbob _ _ _ _ _ _ _ rfl
  refine ⟨log, s, s', hrun, hstep, hcarl (by decide), hsession, ?_⟩
  rcases hmessage with ⟨⟨reason, hreply⟩, -⟩ | ⟨messageId, hreply, hpartition, -⟩
  · exact nomatch Option.some.inj hreply
  · obtain ⟨-, hid⟩ := ServerFrame.ack.inj (Option.some.inj hreply)
    obtain rfl := Option.some.inj hid
    exact hpartition

end Server

end ChatRelay
