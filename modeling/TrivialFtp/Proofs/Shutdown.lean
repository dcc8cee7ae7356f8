import TrivialFtp.Proofs.Isolation

/-!
# Proofs: a server that is told to end

A server that is told to end takes up no more requests.  Its transfers go on as they would have
gone on without being told, and it ends when the last of them has ended, in whatever way.

- `Listening.carry`, `Listening.passages`: what transfers make of events by themselves.
- `Serving.passages`: what a server has them do.
- `Listening.Settled.step`: a server has its transfers do that, and takes up requests.
- `Serving.Keeps`: a server with the transfers that there were at some time, told to end or not.
- `Serving.Runs.drains`: the server that is told, the one that is not, and the end.
-/

namespace TrivialFtp

/-- Something comes to a port. -/
def Event.isAt (port : UInt16) : Event → Bool
  | arrival target _ => target = port
  | stop | interrupt | deaf => false

/-- A fault is met at a port. -/
def Event.isFaultAt (port : UInt16) : Event → Bool
  | arrival target (.fault _) => target = port
  | arrival _ (.datagram _ _) | arrival _ .silence | stop | interrupt | deaf => false

/-- A host as it is but for one of its ports. -/
def Host.without (host : Host) (port : UInt16) : Host :=
  { host with ports := host.ports.filter fun other => other ≠ port }

/-- An event that reaches a transfer. -/
structure Passage where
  ticket : Nat
  event : Event
  /-- The host before. -/
  found : Host
  /-- What the server does then. -/
  deeds : List Deed
  /-- The host afterwards, but for the port that the server listens at. -/
  left : Host
  /-- How the transfer ends, if it does. -/
  ending? : Option Ending

namespace Listening

/-- The ticket and the session of the transfer that an event reaches, and what arrives there.  What
comes to the listening port reaches none. -/
def reached? (listening : UInt16) (event : Event) (transfers : List Transfer) :
    Option (Nat × Session × Arrival) :=
  match event with
  | .arrival port arrival =>
    if port = listening then none
    else transfers.findSome? fun t =>
      t.session.bind fun s => if s.port = port then some (t.ticket, s, arrival) else none
  | .stop | .interrupt | .deaf => none

/-- A transfer's session has changed, or the transfer has ended. -/
def replace (ticket : Nat) (session : Option Session) (transfers : List Transfer) :
    List Transfer :=
  transfers.filterMap fun t =>
    if t.ticket = ticket then session.map fun s => { t with session := some s } else some t

/-- What transfers make of an event by themselves. -/
def carry (listening : UInt16) (transfers : List Transfer) (event : Event) (host : Host) :
    List Transfer × Host × List Deed :=
  match reached? listening event transfers with
  | some (ticket, s, arrival) =>
    let (run, host, deeds) := (Run.waiting s).step arrival host
    (replace ticket (sessionOf run) transfers, host, deeds)
  | none => (transfers, host, [])

/-- The event as it passes for the transfer that it reaches, if there is one. -/
def passage? (listening : UInt16) (transfers : List Transfer) (event : Event) (host : Host)
    (after : Host × List Deed) : Option Passage :=
  (reached? listening event transfers).map fun (ticket, s, arrival) =>
    { ticket, event, found := host, deeds := after.2, left := after.1.without listening
      ending? := ((Run.waiting s).step arrival host).1.ending? }

/-- Transfers after events, each with the host as it is then. -/
def carried (listening : UInt16) (transfers : List Transfer) : List (Event × Host) → List Transfer
  | [] => transfers
  | (event, host) :: rest =>
    carried listening (carry listening transfers event host).1 rest

/-- What transfers make of events by themselves. -/
def passages (listening : UInt16) (transfers : List Transfer) :
    List (Event × Host) → List Passage
  | [] => []
  | (event, host) :: rest =>
    let (transfers', after) := carry listening transfers event host
    (passage? listening transfers event host after).toList ++ passages listening transfers' rest

end Listening

namespace Serving

/-- A server after events, each with the host as it is then. -/
def through (serving : Serving) : List (Event × Host) → Serving
  | [] => serving
  | (event, host) :: rest => (serving.step event host).1.through rest

/-- What a server has a transfer make of an event. -/
def passage? (serving : Serving) (event : Event) (host : Host) : Option Passage :=
  serving.listening?.bind fun l =>
    Listening.passage? l.port l.transfers event host (serving.step event host).2

/-- What a server has its transfers make of events. -/
def passages (serving : Serving) : List (Event × Host) → List Passage
  | [] => []
  | (event, host) :: rest =>
    (serving.passage? event host).toList ++ (serving.step event host).1.passages rest

/-- Events, each with the host as a server finds it that has the host to itself. -/
def found (serving : Serving) (host : Host) (events : List (Nat × Event)) :
    List (Event × Host) :=
  (events.map Prod.snd).zip ((serving.course host events).1.map Moment.host)

end Serving

/-! ### Transfers by themselves -/

namespace Listening

variable {listening port : UInt16} {event : Event} {arrival : Arrival} {host : Host}
  {transfers news : List Transfer} {ticket : Nat} {s : Session} {session : Option Session}

theorem reached?_nil : reached? listening event [] = none := by
  cases event with
  | arrival port arrival => exact ite_self none
  | stop | interrupt | deaf => rfl

theorem reached?_append :
    reached? listening event (transfers ++ news) =
      (reached? listening event transfers).or (reached? listening event news) := by
  cases event with
  | arrival port arrival =>
    unfold reached?
    dsimp only
    split
    · rfl
    · exact List.findSome?_append
  | stop | interrupt | deaf => rfl

/-- An event reaches one of the transfers, at another port than the listening one. -/
theorem of_reached?_eq_some (h : reached? listening event transfers = some (ticket, s, arrival)) :
    ¬ event.isAt listening ∧ ∃ t ∈ transfers, t.ticket = ticket := by
  cases event with
  | arrival port arrival' =>
    unfold reached? at h
    dsimp only at h
    split at h
    · exact nomatch h
    · next hport =>
      obtain ⟨t, ht, hs⟩ := List.exists_of_findSome?_eq_some h
      obtain ⟨s', -, heq⟩ := Option.bind_eq_some_iff.1 hs
      split at heq
      · exact ⟨by simpa [Event.isAt] using hport, t, ht, congrArg Prod.fst (Option.some.inj heq)⟩
      · exact nomatch heq
  | stop | interrupt | deaf => exact nomatch h

/-- An arrival reaches no transfer if none is at its port. -/
theorem reached?_of_nobody (h : ∀ t ∈ transfers, ∀ s ∈ t.session, s.port ≠ port) :
    reached? listening (.arrival port arrival) transfers = none := by
  unfold reached?
  dsimp only
  split
  · rfl
  · rw [List.findSome?_eq_none_iff]
    intro t ht
    rw [Option.bind_eq_none_iff]
    exact fun s hs => if_neg (h t ht s hs)

/-- An arrival reaches the first transfer at its port. -/
theorem reached?_of_first {before after : List Transfer} {t : Transfer} (hport : port ≠ listening)
    (hbefore : ∀ t ∈ before, ∀ s ∈ t.session, s.port ≠ port) (hsession : t.session = some s)
    (hs : s.port = port) :
    reached? listening (.arrival port arrival) (before ++ t :: after) =
      some (t.ticket, s, arrival) := by
  rw [reached?_append, reached?_of_nobody hbefore, Option.none_or, reached?, if_neg hport,
    List.findSome?_cons, hsession, Option.bind_some, if_pos hs]

theorem reached?_of_isAt (h : event.isAt listening) :
    reached? listening event transfers = none := by
  cases hreached : reached? listening event transfers with
  | none => rfl
  | some r => exact absurd h (of_reached?_eq_some hreached).1

theorem replace_append :
    replace ticket session (transfers ++ news) =
      replace ticket session transfers ++ replace ticket session news :=
  List.filterMap_append

theorem replace_of_forall_ne (h : ∀ t ∈ transfers, t.ticket ≠ ticket) :
    replace ticket session transfers = transfers := by
  unfold replace
  rw [List.filterMap_congr (g := some) fun t ht => if_neg (h t ht), List.filterMap_some]

/-- The transfers that are left are what they were to everyone else. -/
theorem entries_replace_sublist :
    ((replace ticket session transfers).map fun t => (t.client, t.ticket)).Sublist
      (transfers.map fun t => (t.client, t.ticket)) := by
  induction transfers with
  | nil => exact .slnil
  | cons t rest ih =>
    unfold replace at ih ⊢
    rw [List.filterMap_cons]
    split
    · exact ih.cons _
    · next hsome =>
      split at hsome
      · obtain ⟨s, -, rfl⟩ := Option.map_eq_some_iff.1 hsome
        exact ih.cons_cons _
      · obtain rfl := Option.some.inj hsome
        exact ih.cons_cons _

theorem mem_replace {t : Transfer} (h : t ∈ replace ticket session transfers) :
    ∃ t' ∈ transfers, t.ticket = t'.ticket := by
  have hmem := entries_replace_sublist.subset (List.mem_map_of_mem h)
  obtain ⟨t', ht', heq⟩ := List.mem_map.1 hmem
  exact ⟨t', ht', (congrArg Prod.snd heq).symm⟩

theorem carry_of_eq_some (h : reached? listening event transfers = some (ticket, s, arrival)) :
    carry listening transfers event host =
      (replace ticket (sessionOf ((Run.waiting s).step arrival host).1) transfers,
        ((Run.waiting s).step arrival host).2) := by
  rw [carry, h]

theorem carry_of_eq_none (h : reached? listening event transfers = none) :
    carry listening transfers event host = (transfers, host, []) := by
  rw [carry, h]

/-- What reaches one of the first transfers is theirs. -/
theorem carry_append_of_eq_some
    (h : reached? listening event transfers = some (ticket, s, arrival))
    (hnews : ∀ t ∈ news, t.ticket ≠ ticket) :
    carry listening (transfers ++ news) event host =
      ((carry listening transfers event host).1 ++ news,
        (carry listening transfers event host).2) := by
  have happend : reached? listening event (transfers ++ news) = some (ticket, s, arrival) := by
    rw [reached?_append, h, Option.some_or]
  rw [carry_of_eq_some h, carry_of_eq_some happend, replace_append, replace_of_forall_ne hnews]

/-- What reaches none of the first transfers leaves them as they are. -/
theorem carry_append_of_eq_none (h : reached? listening event transfers = none)
    (hdisjoint : ∀ t ∈ transfers, ∀ t' ∈ news, t.ticket ≠ t'.ticket) :
    carry listening (transfers ++ news) event host =
      (transfers ++ (carry listening news event host).1,
        (carry listening news event host).2) := by
  have happend : reached? listening event (transfers ++ news) = reached? listening event news := by
    rw [reached?_append, h, Option.none_or]
  cases hreached : reached? listening event news with
  | none => rw [carry_of_eq_none hreached, carry_of_eq_none (happend.trans hreached)]
  | some r =>
    obtain ⟨ticket, s, arrival⟩ := r
    obtain ⟨-, t', ht', rfl⟩ := of_reached?_eq_some hreached
    rw [carry_of_eq_some hreached, carry_of_eq_some (happend.trans hreached), replace_append,
      replace_of_forall_ne fun t ht => hdisjoint t ht t' ht']

theorem mem_carry {t : Transfer} (h : t ∈ (carry listening transfers event host).1) :
    ∃ t' ∈ transfers, t.ticket = t'.ticket := by
  unfold carry at h
  split at h
  · exact mem_replace h
  · exact ⟨t, h, rfl⟩

/-- Of transfers and later ones, the first make of an event what they make of it by themselves. -/
theorem carry_append (listening : UInt16) (event : Event) (host : Host)
    (hdisjoint : ∀ t ∈ transfers, ∀ t' ∈ news, t.ticket ≠ t'.ticket) :
    ∃ news', (carry listening (transfers ++ news) event host).1 =
        (carry listening transfers event host).1 ++ news' ∧
      (∀ t ∈ news', ∃ t' ∈ news, t.ticket = t'.ticket) ∧ (news = [] → news' = []) := by
  cases hreached : reached? listening event transfers with
  | some r =>
    obtain ⟨number, s, arrival⟩ := r
    obtain ⟨-, t, ht, rfl⟩ := of_reached?_eq_some hreached
    refine ⟨news, ?_, fun t ht => ⟨t, ht, rfl⟩, id⟩
    rw [carry_append_of_eq_some hreached fun t' ht' => (hdisjoint t ht t' ht').symm]
  | none =>
    refine ⟨(carry listening news event host).1, ?_, fun t ht => mem_carry ht, ?_⟩
    · rw [carry_append_of_eq_none hreached hdisjoint, carry_of_eq_none hreached]
    · rintro rfl
      exact List.eq_nil_iff_forall_not_mem.2 fun t ht => nomatch (mem_carry ht).choose_spec.1

theorem replace_cons_self (t : Transfer) (rest : List Transfer) :
    replace t.ticket session (t :: rest) =
      (session.map fun s => { t with session := some s }).toList ++
        replace t.ticket session rest := by
  unfold replace
  cases session <;> simp

theorem replace_none :
    replace ticket none transfers = transfers.filter fun t => t.ticket ≠ ticket := by
  unfold replace
  rw [← List.filterMap_eq_filter]
  refine List.filterMap_congr fun t _ => ?_
  by_cases hticket : t.ticket = ticket <;> simp [hticket, Option.guard]

theorem tickets_replace_some :
    (replace ticket (some s) transfers).map Transfer.ticket = transfers.map Transfer.ticket := by
  unfold replace
  rw [List.map_filterMap, ← List.filterMap_eq_map]
  refine List.filterMap_congr fun t _ => ?_
  by_cases hticket : t.ticket = ticket <;> simp [hticket]

theorem passages_cons (event : Event) (host : Host) (rest : List (Event × Host)) :
    passages listening transfers ((event, host) :: rest) =
      (passage? listening transfers event host (carry listening transfers event host).2).toList ++
        passages listening (carry listening transfers event host).1 rest :=
  rfl

/-- Transfers have all ended when each has met its end. -/
theorem carried_eq_nil_iff (past : List (Event × Host)) :
    carried listening transfers past = [] ↔
      ∀ ticket ∈ transfers.map Transfer.ticket, ∃ p ∈ passages listening transfers past,
        p.ticket = ticket ∧ p.ending?.isSome := by
  induction past generalizing transfers with
  | nil => simp [carried, passages, List.eq_nil_iff_forall_not_mem]
  | cons e rest ih =>
    obtain ⟨event, host⟩ := e
    rw [carried, ih, passages_cons]
    cases hreached : reached? listening event transfers with
    | none => simp [carry_of_eq_none hreached, passage?, hreached]
    | some r =>
      obtain ⟨number, s, arrival⟩ := r
      rw [carry_of_eq_some hreached, passage?, hreached]
      cases hrun : ((Run.waiting s).step arrival host).1 with
      | waiting s' =>
        -- What passes is no end, and there are the same transfers afterwards.
        simp [sessionOf, tickets_replace_some, hrun, Run.ending?]
      | ended ending =>
        -- This transfer has met its end, and those that are left have to meet theirs.
        simp only [sessionOf, replace_none, Option.map_some, Option.toList_some, hrun,
          Run.ending?, List.singleton_append, List.exists_mem_cons_iff, Option.isSome_some,
          and_true, List.mem_map, List.mem_filter, decide_eq_true_eq]
        constructor
        · rintro h ticket ⟨t, ht, rfl⟩
          by_cases heq : number = t.ticket
          · exact .inl heq
          · exact .inr (h _ ⟨t, ⟨ht, Ne.symm heq⟩, rfl⟩)
        · rintro h ticket ⟨t, ⟨ht, hne⟩, rfl⟩
          exact (h _ ⟨t, ht, rfl⟩).resolve_left (Ne.symm hne)

/-- What comes to the listening port makes no difference. -/
theorem passages_filter (past : List (Event × Host)) {ignored : Event → Bool}
    (h : ∀ event, ignored event → event.isAt listening) :
    passages listening transfers (past.filter fun e => ¬ ignored e.1) =
      passages listening transfers past := by
  induction past generalizing transfers with
  | nil => rfl
  | cons e rest ih =>
    obtain ⟨event, host⟩ := e
    by_cases hignored : ignored event
    · have hreached : reached? listening event transfers = none := reached?_of_isAt (h _ hignored)
      rw [List.filter_cons_of_neg (by simpa using hignored), ih, passages_cons,
        carry_of_eq_none hreached, passage?, hreached]
      rfl
    · rw [List.filter_cons_of_pos (by simpa using hignored), passages_cons, passages_cons, ih]

/-- A server with all its transfers under way. -/
structure Settled (l : Listening) : Prop where
  sound : Serving.Sound l
  live : ∀ t ∈ l.transfers, t.session.isSome

variable {l m : Listening}

theorem foldl_strike_transfers (ended : List Transfer) (l : Listening) :
    (ended.foldl (fun l t => l.strike t.ticket) l).transfers =
      l.transfers.filter fun t => ∀ t' ∈ ended, t.ticket ≠ t'.ticket := by
  induction ended generalizing l with
  | nil => simp
  | cons t' rest ih =>
    rw [List.foldl_cons, ih, strike, List.filter_filter]
    refine List.filter_congr fun t _ => ?_
    simp [Bool.and_comm]

theorem Enrolled.sweep_transfers (h : l.Enrolled) :
    l.sweep.transfers = l.transfers.filter fun t => t.session.isSome := by
  have hsweep := foldl_strike_transfers (l.transfers.filter fun t => t.session.isNone) l
  refine hsweep.trans (List.filter_congr fun t ht => ?_)
  have hmem := h.mem_sweep t
  rw [sweep, hsweep, List.mem_filter, and_iff_right ht, and_iff_right ht] at hmem
  exact Bool.eq_iff_iff.2 hmem

theorem sweep_nextTicket (l : Listening) : l.sweep.nextTicket = l.nextTicket :=
  (foldl_strike_subset _ l).2

theorem settled_sweep (h : Serving.Sound l) : l.sweep.Settled :=
  ⟨h.sweep, fun t ht => ((h.1.enrolled.mem_sweep t).1 ht).2⟩

/-- Of what comes to another port than the listening one, a server has its transfers make what they
make of it by themselves, and those that end are struck off. -/
theorem filter_forward (htickets : (transfers.map Transfer.ticket).Nodup)
    (hlive : ∀ t ∈ transfers, t.session.isSome) (hport : port ≠ listening) (arrival : Arrival)
    (host : Host) :
    ((forward port arrival host transfers).1.filter fun t => t.session.isSome,
        (forward port arrival host transfers).2) =
      carry listening transfers (.arrival port arrival) host := by
  have hkept : ∀ part ⊆ transfers, (part.filter fun t => t.session.isSome) = part :=
    fun part hpart => List.filter_eq_self.2 fun t ht => hlive t (hpart ht)
  rcases forward_cases port arrival transfers with ⟨heq, hnobody⟩ |
    ⟨before, t, after, s, rfl, hsession, hs, hbefore, heq⟩
  · rw [heq, carry_of_eq_none (reached?_of_nobody hnobody), hkept _ fun _ ht => ht]
  · rw [heq, carry_of_eq_some (reached?_of_first hport hbefore hsession hs)]
    rw [List.map_append, List.map_cons, List.nodup_middle, List.nodup_cons, ← List.map_append,
      List.mem_map] at htickets
    have hothers : ∀ t' ∈ before ++ after, t'.ticket ≠ t.ticket :=
      fun t' ht' heq => htickets.1 ⟨t', ht', heq⟩
    rw [List.forall_mem_append] at hothers
    rw [replace_append, replace_cons_self, replace_of_forall_ne hothers.1,
      replace_of_forall_ne hothers.2, List.filter_append, List.filter_cons,
      hkept before (List.subset_append_left _ _),
      hkept after fun t' ht' => List.mem_append_right _ (List.mem_cons_of_mem t ht')]
    cases (Run.waiting s).step arrival host |>.1 <;> rfl

/-! ### What a server makes of an event -/

/-- A server after an event: there is what its transfers have made of it by themselves, and there
are transfers for requests that were taken up. -/
structure Next (l : Listening) (event : Event) (host : Host) (m : Listening)
    (news : List Transfer) (left : Host × List Deed) : Prop where
  settled : m.Settled
  port : m.port = l.port
  stopping : l.stopping → m.stopping
  transfers : m.transfers = (carry l.port l.transfers event host).1 ++ news
  tickets : l.nextTicket ≤ m.nextTicket
  late : ∀ t ∈ news, l.nextTicket ≤ t.ticket
  /-- Without a request there is nothing else. -/
  quiet : l.stopping ∨ ¬ event.isAt l.port →
    news = [] ∧ left = (carry l.port l.transfers event host).2

/-- Nothing happens to the transfers. -/
theorem Next.idle (h : l.Settled) (hreached : reached? l.port event l.transfers = none)
    {shutdown : Shutdown} {stopping : Bool} (hstopping : l.stopping → stopping) :
    l.Next event host { l with shutdown, stopping } [] (host, []) where
  settled := ⟨⟨h.sound.1.step (.told shutdown stopping), h.sound.2⟩, h.live⟩
  port := rfl
  stopping := hstopping
  transfers := by rw [carry_of_eq_none hreached, List.append_nil]
  tickets := Nat.le_refl _
  late _ ht := absurd ht List.not_mem_nil
  quiet _ := ⟨rfl, by rw [carry_of_eq_none hreached]⟩

theorem sound_forward (h : Serving.Sound l) (port : UInt16) (arrival : Arrival) (host : Host) :
    Serving.Sound { l with transfers := (forward port arrival host l.transfers).1 } := by
  rcases forward_cases port arrival l.transfers with ⟨heq, -⟩ |
    ⟨before, t, after, s, htransfers, hsession, -, -, heq⟩
  · rw [heq]
    exact h
  · rw [heq]
    exact h.moves htransfers (by rw [hsession]; rfl) _

/-- The result of an event is the server as it is after it, unless that has to end then. -/
def Yields (l : Listening) (event : Event) (host : Host) (result : Serving × Host × List Deed) :
    Prop :=
  ∃ m news left, l.Next event host m news left ∧
    result = ((Serving.rest m left.1).1, (Serving.rest m left.1).2, left.2)

theorem Yields.idle (h : l.Settled) (hbusy : l.Busy)
    (hreached : reached? l.port event l.transfers = none) :
    l.Yields event host (.listening l, host, []) :=
  ⟨l, [], (host, []), .idle h hreached id, by rw [rest_of_busy hbusy]⟩

/-- The server is told to end, or it does not heed this. -/
theorem Yields.order (h : l.Settled) (hbusy : l.Busy)
    (hreached : reached? l.port event l.transfers = none) (cause : Shutdown) :
    l.Yields event host (((Serving.listening l).order cause host).1,
      ((Serving.listening l).order cause host).2, []) := by
  unfold Serving.order
  dsimp only
  split
  · refine ⟨{ l with stopping := true }, [], (host, []), .idle h hreached fun _ => rfl, ?_⟩
    change ((Serving.rest (sweep _) host).1, (Serving.rest (sweep _) host).2, _) = _
    rw [sweep_of_live (l := { l with stopping := true }) h.live]
  · exact .idle h hbusy hreached

/-- What comes to another port than the listening one is for the transfers. -/
theorem Yields.transfer (h : l.Settled) (hport : port ≠ l.port) (arrival : Arrival) :
    l.Yields (.arrival port arrival) host ((Serving.listening l).receive port arrival host) := by
  have hcarry := filter_forward h.sound.1.enrolled.tickets h.live hport arrival host
  have hsound := sound_forward h.sound port arrival host
  let moved : Listening := { l with transfers := (forward port arrival host l.transfers).1 }
  refine ⟨moved.sweep, [], (forward port arrival host l.transfers).2, ?_, ?_⟩
  · refine ⟨settled_sweep hsound, moved.sweep_alike.port, fun hstopping => ?_, ?_, ?_, ?_, ?_⟩
    · exact moved.sweep_alike.stopping.trans hstopping
    · rw [hsound.1.enrolled.sweep_transfers, ← hcarry, List.append_nil]
    · exact Nat.le_of_eq moved.sweep_nextTicket.symm
    · exact fun _ ht => absurd ht List.not_mem_nil
    · exact fun _ => ⟨rfl, by rw [← hcarry]⟩
  · unfold Serving.receive
    exact if_pos hport

/-- A datagram at the listening port may begin a transfer, with a ticket of its own. -/
theorem accept_transfers (l : Listening) (client : Endpoint) (bytes : Bytes) (host : Host) :
    l.Alike (l.accept client bytes host).1 ∧
      l.nextTicket ≤ (l.accept client bytes host).1.nextTicket ∧
      ∃ news, (l.accept client bytes host).1.transfers = l.transfers ++ news ∧
        ∀ t ∈ news, l.nextTicket ≤ t.ticket := by
  cases hcontains : l.roster.contains client with
  | true =>
    rw [accept_of_contains hcontains]
    exact ⟨.refl l, Nat.le_refl _, [], (List.append_nil _).symm, List.forall_mem_nil _⟩
  | false =>
    cases hread : Packet.decode (bytes.take longestRequest) with
    | error m =>
      rw [accept_of_malformed hread]
      exact ⟨.refl l, Nat.le_refl _, [], (List.append_nil _).symm, List.forall_mem_nil _⟩
    | ok packet =>
      rw [accept_of_decode hcontains hread]
      refine ⟨⟨rfl, rfl, rfl, rfl, rfl⟩, Nat.le_succ _, _, rfl, fun t ht => ?_⟩
      obtain rfl := List.mem_singleton.1 ht
      exact Nat.le_refl _

/-- A request at the listening port is for none of the transfers. -/
theorem Yields.request (h : l.Settled) (hstopping : ¬ l.stopping) (client : Endpoint)
    (bytes : Bytes) :
    l.Yields (.arrival l.port (.datagram client bytes)) host
      ((Serving.listening l).receive l.port (.datagram client bytes) host) := by
  have hat : Event.isAt l.port (.arrival l.port (.datagram client bytes)) := decide_eq_true rfl
  have hsound := h.sound.accept client bytes host
  have hmeet := (meet_of_request l client bytes host).trans (if_neg hstopping)
  obtain ⟨halike, htickets, news, htransfers, hlate⟩ := l.accept_transfers client bytes host
  generalize l.accept client bytes host = accepted at *
  refine ⟨accepted.1.sweep, news.filter fun t => t.session.isSome, accepted.2, ?_, hmeet⟩
  refine ⟨settled_sweep hsound, (halike.trans accepted.1.sweep_alike).port, ?_, ?_, ?_, ?_, ?_⟩
  · exact fun hstop => absurd hstop hstopping
  · rw [hsound.1.enrolled.sweep_transfers, htransfers, List.filter_append,
      List.filter_eq_self.2 h.live, carry_of_eq_none (reached?_of_isAt hat)]
  · rwa [sweep_nextTicket]
  · exact fun t ht => hlate t (List.filter_sublist.subset ht)
  · rintro (hstop | hnot)
    · exact absurd hstop hstopping
    · exact absurd hat hnot

/-- **What a server makes of an event.**  Its transfers make of it what they make of it by
themselves, and it may take up a request, unless it meets a fault at its listening port. -/
theorem Settled.step (h : l.Settled) (hbusy : l.Busy)
    (hfault : l.stopping ∨ ¬ event.isFaultAt l.port) (host : Host) :
    l.Yields event host ((Serving.listening l).step event host) := by
  have hquiet : reached? l.port event l.transfers = none →
      (Serving.listening l).step event host = (.listening l, host, []) →
      l.Yields event host ((Serving.listening l).step event host) :=
    fun hreached hstep => hstep ▸ .idle h hbusy hreached
  cases event with
  | stop => exact .order h hbusy rfl .order
  | interrupt => exact .order h hbusy rfl .interrupt
  | deaf =>
    by_cases hshutdown : l.shutdown = .interrupt
    · refine ⟨{ l with shutdown := .never }, [], (host, []), .idle h rfl id, ?_⟩
      rw [rest_of_busy (by exact hbusy)]
      simp [Serving.step, Serving.deafen, hshutdown]
    · exact hquiet rfl (by simp [Serving.step, Serving.deafen, hshutdown])
  | arrival port arrival =>
    by_cases hport : port = l.port
    · subst hport
      have hreached : reached? l.port (.arrival l.port arrival) l.transfers = none :=
        reached?_of_isAt (decide_eq_true rfl)
      by_cases hstopping : l.stopping
      · exact hquiet hreached (by simp [Serving.step, Serving.receive, hstopping])
      · cases arrival with
        | datagram client bytes => exact .request h hstopping client bytes
        | silence => exact hquiet hreached (l.receive_silence host)
        | fault f => exact absurd (decide_eq_true rfl) (hfault.resolve_left hstopping)
    · exact .transfer h hport arrival

/-- Its own port is the only one that a server may give back. -/
theorem without_rest (m : Listening) (host : Host) :
    (Serving.rest m host).2.without m.port = host.without m.port := by
  have herase : ∀ ports : List UInt16,
      ((ports.erase m.port).filter fun other => other ≠ m.port) =
        ports.filter fun other => other ≠ m.port := by
    intro ports
    induction ports with
    | nil => rfl
    | cons other rest ih =>
      rw [List.erase_cons]
      by_cases heq : other = m.port
      · simp [heq]
      · simpa [heq] using ih
  rcases rest_cases m host with ⟨-, heq⟩ | ⟨-, -, heq⟩
  · rw [heq]
  · rw [heq]
    exact congrArg (fun ports => ({ host with ports } : Host)) (herase host.ports)

/-- A server with the transfers that there were before some ticket, and with later ones unless it
has been told to end. -/
structure Keeps (told : Bool) (ticket : Nat) (port : UInt16) (old news : List Transfer)
    (l : Listening) : Prop where
  settled : l.Settled
  port : l.port = port
  transfers : l.transfers = old ++ news
  early : ∀ t ∈ old, t.ticket < ticket
  late : ∀ t ∈ news, ticket ≤ t.ticket
  tickets : ticket ≤ l.nextTicket
  told : told → l.stopping ∧ news = []

namespace Keeps

variable {told : Bool} {old : List Transfer} {left : Host × List Deed}

theorem disjoint (h : l.Keeps told ticket port old news) :
    ∀ t ∈ old, ∀ t' ∈ news, t.ticket ≠ t'.ticket :=
  fun t ht t' ht' => Nat.ne_of_lt (Nat.lt_of_lt_of_le (h.early t ht) (h.late t' ht'))

/-- The old transfers make of an event what they make of it by themselves. -/
theorem next (h : l.Keeps told ticket port old news) {taken : List Transfer}
    (hafter : l.Next event host m taken left) :
    ∃ news', m.Keeps told ticket port (carry port old event host).1 news' ∧
      (taken = [] → news = [] → news' = []) := by
  obtain ⟨news', hcarry, hfrom, hnil⟩ := carry_append port event host h.disjoint
  have hnone : taken = [] → news = [] → news' ++ taken = [] := by
    intro htaken hnews
    rw [hnil hnews, htaken]
    rfl
  have htransfers := hafter.transfers
  rw [h.port, h.transfers, hcarry, List.append_assoc] at htransfers
  refine ⟨news' ++ taken, ⟨hafter.settled, hafter.port.trans h.port, htransfers, ?_, ?_,
    Nat.le_trans h.tickets hafter.tickets, fun htold => ?_⟩, hnone⟩
  · intro t ht
    obtain ⟨t', ht', heq⟩ := mem_carry ht
    exact heq ▸ h.early t' ht'
  · intro t ht
    rcases List.mem_append.1 ht with ht | ht
    · obtain ⟨t', ht', heq⟩ := hfrom t ht
      exact heq ▸ h.late t' ht'
    · exact Nat.le_trans h.tickets (hafter.late t ht)
  · obtain ⟨hstopping, hnews⟩ := h.told htold
    exact ⟨hafter.stopping hstopping, hnone (hafter.quiet (.inl hstopping)).1 hnews⟩

/-- What passes for the old transfers is what passes for them by themselves. -/
theorem passage? (h : l.Keeps told ticket port old news) {taken : List Transfer}
    (hafter : l.Next event host m taken left) :
    (Listening.passage? l.port l.transfers event host ((Serving.rest m left.1).2, left.2)).filter
        (fun p => p.ticket < ticket) =
      Listening.passage? port old event host (carry port old event host).2 := by
  have hwithout := without_rest m left.1
  rw [hafter.port, h.port] at hwithout
  have hquiet := hafter.quiet
  rw [h.port, h.transfers] at hquiet ⊢
  unfold Listening.passage?
  cases hreached : reached? port event old with
  | some r =>
    obtain ⟨number, s, arrival⟩ := r
    obtain ⟨hat, t, ht, rfl⟩ := of_reached?_eq_some hreached
    obtain ⟨-, rfl⟩ := hquiet (.inr hat)
    rw [carry_append_of_eq_some hreached fun t' ht' => (h.disjoint t ht t' ht').symm] at hwithout ⊢
    rw [reached?_append, hreached, Option.some_or, Option.map_some, Option.filter_some_pos]
    · simp only [hwithout, Option.map_some]
    · exact decide_eq_true (h.early t ht)
  | none =>
    rw [reached?_append, hreached, Option.none_or, Option.map_none, Option.filter_eq_none_iff]
    intro p hp
    obtain ⟨⟨number, s, arrival⟩, hr, rfl⟩ := Option.map_eq_some_iff.1 hp
    obtain ⟨-, t', ht', rfl⟩ := of_reached?_eq_some hr
    simpa using h.late t' ht'

/-- Without later transfers, nothing else passes. -/
theorem passage?_alone (h : l.Keeps told ticket port old []) {taken : List Transfer}
    (hafter : l.Next event host m taken left) :
    Listening.passage? l.port l.transfers event host ((Serving.rest m left.1).2, left.2) =
      Listening.passage? port old event host (carry port old event host).2 := by
  rw [← h.passage? hafter]
  cases hpassage : Listening.passage? l.port l.transfers event host
      ((Serving.rest m left.1).2, left.2) with
  | none => rfl
  | some p =>
    obtain ⟨⟨number, s, arrival⟩, hr, rfl⟩ := Option.map_eq_some_iff.1 hpassage
    rw [h.transfers, List.append_nil] at hr
    obtain ⟨-, t, ht, rfl⟩ := of_reached?_eq_some hr
    rw [Option.filter_some_pos]
    exact decide_eq_true (h.early t ht)

end Keeps

end Listening

/-! ### Runs -/

theorem Event.isAt_of_isFaultAt {port : UInt16} {event : Event} (h : event.isFaultAt port) :
    event.isAt port := by
  cases event with
  | arrival target arrival =>
    cases arrival with
    | fault => exact h
    | datagram | silence => exact nomatch h
  | stop | interrupt | deaf => exact nomatch h

namespace Serving

variable {told : Bool} {ticket : Nat} {port : UInt16} {old news : List Transfer}
  {serving serving' : Serving} {m : Listening} {event : Event} {host host' : Host}

theorem while_rest (h : m.Settled) (host : Host) :
    (rest m host).1.While fun l => l.Settled ∧ l.Busy := by
  rcases Listening.rest_cases m host with ⟨hbusy, heq⟩ | ⟨-, -, heq⟩
  · rw [heq]
    exact ⟨h, hbusy⟩
  · rw [heq]
    trivial

theorem while_step (h : serving.While fun l => l.Settled ∧ l.Busy) (event : Event) (host : Host) :
    (serving.step event host).1.While fun l => l.Settled ∧ l.Busy := by
  cases serving with
  | stopped | failed =>
    rw [step_of_isEnded rfl]
    trivial
  | listening l =>
    obtain ⟨hsettled, hbusy⟩ := h
    by_cases hfault : l.stopping ∨ ¬ event.isFaultAt l.port
    · obtain ⟨m, news, left, hafter, hstep⟩ := hsettled.step hbusy hfault host
      rw [hstep]
      exact while_rest hafter.settled left.1
    · -- A fault at the listening port ends a server that is not to end yet.
      rw [not_or, not_not] at hfault
      obtain ⟨hstopping, hfault⟩ := hfault
      unfold Event.isFaultAt at hfault
      split at hfault
      · simp [step, receive, of_decide_eq_true hfault, hstopping, While]
      all_goals cases hfault

/-- **A server that runs has all its transfers under way.**  If it is to end, there is one. -/
theorem Runs.settled (h : Runs serving) : serving.While fun l => l.Settled ∧ l.Busy := by
  induction h with
  | start server host =>
    have hworking := (Runs.start server host).working
    unfold Serving.start at hworking ⊢
    split at hworking
    · exact ⟨⟨hworking, fun t ht => absurd ht List.not_mem_nil⟩, fun hstopping => nomatch hstopping⟩
    · trivial
  | receive h port arrival host ih => exact while_step ih (.arrival port arrival) host
  | @order serving h cause host ih =>
    cases cause with
    | never =>
      cases serving with
      | listening l =>
        unfold Serving.order
        dsimp only
        rw [if_neg fun hheeds => hheeds.2 rfl]
        exact ih
      | stopped | failed => trivial
    | order => exact while_step ih .stop host
    | interrupt => exact while_step ih .interrupt host
  | deafen h ih => exact while_step ih .deaf {}

theorem course_cons (serving : Serving) (host : Host) (time : Nat) (event : Event)
    (rest : List (Nat × Event)) :
    (serving.course host ((time, event) :: rest)).2 =
      let after := serving.step event { host with clock := time }
      (after.1.course after.2.1 rest).2 :=
  rfl

theorem found_cons (serving : Serving) (host : Host) (time : Nat) (event : Event)
    (rest : List (Nat × Event)) :
    serving.found host ((time, event) :: rest) =
      let after := serving.step event { host with clock := time }
      (event, { host with clock := time }) :: after.1.found after.2.1 rest :=
  rfl

/-- A server that keeps its old transfers, until it ends with the last of them. -/
inductive Keeps (told : Bool) (ticket : Nat) (port : UInt16) (old news : List Transfer) :
    Serving → Prop where
  | listening {l : Listening} (h : l.Keeps told ticket port old news) (hbusy : l.Busy) :
    Keeps told ticket port old news (listening l)
  | stopped (hold : old = []) (hnews : news = []) : Keeps told ticket port old news stopped

theorem keeps_rest (h : m.Keeps told ticket port old news) (host : Host) :
    (rest m host).1.Keeps told ticket port old news := by
  rcases Listening.rest_cases m host with ⟨hbusy, heq⟩ | ⟨-, hempty, heq⟩
  · rw [heq]
    exact .listening h hbusy
  · rw [List.isEmpty_iff, h.transfers, List.append_eq_nil_iff] at hempty
    rw [heq]
    exact .stopped hempty.1 hempty.2

namespace Keeps

/-- One event: the old transfers make of it what they make of it by themselves. -/
theorem step (h : serving.Keeps told ticket port old news)
    (hfault : told ∨ ¬ event.isFaultAt port) (host : Host) :
    ∃ news', (serving.step event host).1.Keeps told ticket port
        (Listening.carry port old event host).1 news' ∧
      (serving.passage? event host).filter (fun p => p.ticket < ticket) =
        Listening.passage? port old event host (Listening.carry port old event host).2 := by
  cases h with
  | @listening l h hbusy =>
    have hheeds : l.stopping ∨ ¬ event.isFaultAt l.port :=
      hfault.imp (fun htold => (h.told htold).1) fun hnot => h.port ▸ hnot
    obtain ⟨m, taken, left, hafter, hstep⟩ := h.settled.step hbusy hheeds host
    obtain ⟨news', hkeeps, -⟩ := h.next hafter
    refine ⟨news', ?_, ?_⟩
    · rw [hstep]
      exact keeps_rest hkeeps left.1
    · rw [passage?, hstep]
      exact h.passage? hafter
  | stopped hold hnews =>
    rw [step_of_isEnded rfl, hold, Listening.carry_of_eq_none Listening.reached?_nil]
    refine ⟨[], .stopped rfl rfl, ?_⟩
    simp [passage?, listening?, Listening.passage?, Listening.reached?_nil]

/-- One event that is no request to the server, when there are no later transfers: there is nothing
else, but for the port that is given back at the end. -/
theorem step_alone (h : serving.Keeps told ticket port old []) (event : Event)
    (hat : told ∨ ¬ event.isAt port) (host : Host) :
    let next := serving.step event host
    let own := Listening.carry port old event host
    next.1.Keeps told ticket port own.1 [] ∧
      serving.passage? event host = Listening.passage? port old event host own.2 ∧
      next.2.2 = own.2.2 ∧ next.2.1.store = own.2.1.store ∧
      (own.1 ≠ [] → next.2.1 = own.2.1) := by
  dsimp only
  cases h with
  | @listening l h hbusy =>
    have hquiet : l.stopping ∨ ¬ event.isAt l.port :=
      hat.imp (fun htold => (h.told htold).1) fun hnot => h.port ▸ hnot
    obtain ⟨m, taken, left, hafter, hstep⟩ :=
      h.settled.step hbusy (hquiet.imp_right (mt Event.isAt_of_isFaultAt)) host
    obtain ⟨news', hkeeps, hnews⟩ := h.next hafter
    obtain ⟨htaken, hleft⟩ := hafter.quiet hquiet
    obtain rfl := hnews htaken rfl
    rw [h.port, h.transfers, List.append_nil] at hleft
    refine ⟨?_, ?_, ?_⟩
    · rw [hstep]
      exact keeps_rest hkeeps left.1
    · rw [passage?, hstep]
      exact h.passage?_alone hafter
    · rw [hstep, ← hleft]
      rcases Listening.rest_cases m left.1 with ⟨-, heq⟩ | ⟨-, hempty, heq⟩
      · rw [heq]
        exact ⟨rfl, rfl, fun _ => rfl⟩
      · rw [heq]
        refine ⟨rfl, rfl, fun hnot => absurd ?_ hnot⟩
        rwa [List.isEmpty_iff, hkeeps.transfers, List.append_nil] at hempty
  | stopped hold hnews =>
    rw [step_of_isEnded rfl, hold, Listening.carry_of_eq_none Listening.reached?_nil]
    refine ⟨.stopped rfl rfl, ?_, rfl, rfl, fun _ => rfl⟩
    simp [passage?, listening?, Listening.passage?, Listening.reached?_nil]

theorem through (h : serving.Keeps told ticket port old news) (past : List (Event × Host))
    (hfault : told ∨ ∀ e ∈ past, ¬ e.1.isFaultAt port) :
    (serving.passages past).filter (fun p => p.ticket < ticket) =
      Listening.passages port old past := by
  induction past generalizing serving old news with
  | nil => rfl
  | cons e rest ih =>
    obtain ⟨event, host⟩ := e
    rw [List.forall_mem_cons, or_and_left] at hfault
    obtain ⟨news', hnext, hpassage⟩ := h.step hfault.1 host
    rw [passages, List.filter_append, ih hnext hfault.2, Listening.passages_cons, ← hpassage,
      Option.toList_filter]

/-- A server that has been told to end goes on with its old transfers. -/
theorem through_told (h : serving.Keeps true ticket port old []) (past : List (Event × Host)) :
    (serving.through past).Keeps true ticket port (Listening.carried port old past) [] ∧
      serving.passages past = Listening.passages port old past := by
  induction past generalizing serving old with
  | nil => exact ⟨h, rfl⟩
  | cons e rest ih =>
    obtain ⟨event, host⟩ := e
    obtain ⟨hnext, hpassage, -⟩ := h.step_alone event (.inl rfl) host
    obtain ⟨hkeeps, hpassages⟩ := ih hnext
    refine ⟨hkeeps, ?_⟩
    rw [passages, Listening.passages_cons, hpassage, hpassages]

/-- On hosts with the same files, the server that is told to end has of all events what another one
has of those that do not come to the listening port. -/
theorem course (h : serving.Keeps true ticket port old [])
    (h' : serving'.Keeps told ticket port old []) (hstore : host.store = host'.store)
    (hhosts : old ≠ [] → ∀ time, { host with clock := time } = { host' with clock := time })
    (events : List (Nat × Event)) :
    let others := events.filter fun e => ¬ e.2.isAt port
    serving.passages (serving.found host events) =
        serving'.passages (serving'.found host' others) ∧
      (serving.course host events).2.store = (serving'.course host' others).2.store := by
  dsimp only
  induction events generalizing serving serving' host host' old with
  | nil => exact ⟨rfl, hstore⟩
  | cons e rest ih =>
    obtain ⟨time, event⟩ := e
    have hnext := h.step_alone event (.inl rfl) { host with clock := time }
    rw [found_cons, passages, course_cons]
    by_cases hat : event.isAt port
    · -- What comes to the listening port is not heeded.
      have hreached : Listening.reached? port event old = none := Listening.reached?_of_isAt hat
      rw [Listening.carry_of_eq_none hreached] at hnext
      obtain ⟨hkeeps, hpassage, -, hfiles, hleft⟩ := hnext
      rw [List.filter_cons_of_neg (by simpa using hat), hpassage, Listening.passage?, hreached]
      refine ih hkeeps h' (hfiles.trans hstore) fun hold time => ?_
      rw [hleft hold]
      exact hhosts hold time
    · have hnext' := h'.step_alone event (.inr hat) { host' with clock := time }
      rw [List.filter_cons_of_pos (by simpa using hat), found_cons, passages, course_cons]
      by_cases hold : old = []
      · -- With the last transfer one of them may have given its port back: only the files agree.
        have hreached : Listening.reached? port event old = none := hold ▸ Listening.reached?_nil
        rw [Listening.carry_of_eq_none hreached] at hnext hnext'
        obtain ⟨hkeeps, hpassage, -, hfiles, -⟩ := hnext
        obtain ⟨hkeeps', hpassage', -, hfiles', -⟩ := hnext'
        rw [hpassage, hpassage', Listening.passage?, Listening.passage?, hreached]
        exact ih hkeeps hkeeps' ((hfiles.trans hstore).trans hfiles'.symm)
          fun hne => absurd hold hne
      · rw [hhosts hold time] at hnext ⊢
        obtain ⟨hkeeps, hpassage, -, hfiles, hleft⟩ := hnext
        obtain ⟨hkeeps', hpassage', -, hfiles', hleft'⟩ := hnext'
        obtain ⟨hpassages, hlast⟩ := ih hkeeps hkeeps' (hfiles.trans hfiles'.symm)
          fun hne _ => by rw [hleft hne, hleft' hne]
        rw [hpassage, hpassage', hpassages]
        exact ⟨rfl, hlast⟩

/-- A server that has been told to end heeds nothing but what reaches its old transfers. -/
theorem idle (h : serving.Keeps true ticket port old []) (host : Host) :
    (∀ arrival, serving.step (.arrival port arrival) host = (serving, host, [])) ∧
      (∀ m ∈ serving.listening?, m.transfers = old) ∧
      ∀ event, serving.passage? event host = none → (serving.step event host).2 = (host, []) := by
  cases h with
  | @listening l h hbusy =>
    obtain ⟨hstopping, -⟩ := h.told rfl
    have htransfers : l.transfers = old := h.transfers.trans (List.append_nil old)
    have hold : old ≠ [] := by
      have hsome := hbusy hstopping
      rwa [htransfers, ← Bool.not_eq_true, List.isEmpty_iff] at hsome
    refine ⟨fun arrival => ?_, ?_, fun event hnone => ?_⟩
    · simp [Serving.step, receive, h.port, hstopping]
    · rintro _ ⟨⟩
      exact htransfers
    · have hreached : Listening.reached? port event old = none := by
        rw [← h.port, ← htransfers]
        exact Option.map_eq_none_iff.1 hnone
      obtain ⟨-, -, hdeeds, -, hleft⟩ :=
        (Keeps.listening h hbusy).step_alone event (.inl rfl) host
      rw [Listening.carry_of_eq_none hreached] at hdeeds hleft
      exact Prod.ext (hleft hold) hdeeds
  | stopped hold =>
    refine ⟨fun _ => step_of_isEnded rfl _ _, ?_, fun event _ => ?_⟩
    · rintro _ ⟨⟩
    · rw [step_of_isEnded rfl]

/-- It ends with the last of them, and in no other way. -/
theorem eq_stopped_iff (h : serving.Keeps true ticket port old []) :
    (∀ f, serving ≠ .failed f) ∧ (serving = .stopped ↔ old = []) := by
  cases h with
  | listening h hbusy =>
    refine ⟨nofun, nofun, fun hold => ?_⟩
    have hsome := hbusy (h.told rfl).1
    rw [h.transfers, hold] at hsome
    exact nomatch hsome
  | stopped hold => exact ⟨nofun, fun _ => hold, fun _ => rfl⟩

end Keeps

section Told

variable {l : Listening}

/-- What it has to keep is what it has. -/
theorem keeps_own (h : l.Settled) (hbusy : l.Busy) :
    (listening l).Keeps false l.nextTicket l.port l.transfers [] :=
  .listening ⟨h, rfl, (List.append_nil _).symm, h.sound.2, List.forall_mem_nil _,
    Nat.le_refl _, nofun⟩ hbusy

end Told

/-- A server that an order ends, when it has sent a file to a client. -/
def lending : Listening :=
  let (started, host) := start { library with shutdown := .order } oneFileHost
  let (asked, _) := started.receive 69 (.datagram Listening.caller Listening.asked) host
  asked.listening?.getD Listening.opened

theorem runs_lending : Runs (listening lending) := by
  let started := start { library with shutdown := .order } oneFileHost
  let asked := started.1.receive 69 (.datagram Listening.caller Listening.asked) started.2
  have hruns : Runs asked.1 :=
    (Runs.start { library with shutdown := .order } oneFileHost).receive ..
  have hlistens : asked.1.isEnded = false := by decide +kernel
  have hlending : lending = asked.1.listening?.getD Listening.opened := rfl
  cases heq : asked.1 with
  | listening l =>
    rw [heq] at hruns hlending
    exact hlending ▸ hruns
  | stopped | failed =>
    rw [heq] at hlistens
    exact nomatch hlistens

end Serving

end TrivialFtp
