import Mathlib.Data.List.Nodup
import Mathlib.Logic.Relation
import TrivialFtp.Server.Serving

/-!
# Proofs: who is admitted

A server has at most one transfer for each client.  Datagrams come to its listening port, and its
transfers go on, end and are struck off, in any order and however they end; tickets are only
known to be new among the transfers that are not yet struck off.

- `Listening.Step`: what may happen to a server next.
- `Listening.Enrolled`: the roster is one of the transfers that are not struck off, by client and
  by ticket, and no two of them are of one client.
- `Listening.Step.enrolled`, `Listening.Working.enrolled`: this is never lost.
- `Listening.Working.admits_once`: whom a server turns away and for whom it begins a transfer.
- `Serving.Runs.working`: a server that runs does nothing else.
-/

namespace TrivialFtp

/-! ### Rosters -/

namespace Roster

variable {roster : Roster} {client other : Endpoint} {ticket number : Nat}

/-- The two halves of a roster are maps, and each is the inverse of the other. -/
structure Inverse (roster : Roster) : Prop where
  clients : (roster.byClient.map Prod.fst).Nodup
  tickets : (roster.byTicket.map Prod.fst).Nodup
  swap : ∀ client ticket, (client, ticket) ∈ roster.byClient ↔ (ticket, client) ∈ roster.byTicket

/-- A client is on the roster if it has a ticket there. -/
theorem contains_iff :
    roster.contains client = true ↔ ∃ ticket, (client, ticket) ∈ roster.byClient := by
  simp [contains]

theorem inverse_empty : Inverse {} where
  clients := List.nodup_nil
  tickets := List.nodup_nil
  swap _ _ := by simp

/-- A client that is enrolled has the new ticket, and the others keep theirs. -/
theorem mem_enrol :
    (other, number) ∈ (roster.enrol client ticket).byClient ↔
      other = client ∧ number = ticket ∨ (other, number) ∈ roster.byClient ∧ other ≠ client := by
  simp [enrol]

theorem mem_enrol_byTicket :
    (number, other) ∈ (roster.enrol client ticket).byTicket ↔
      number = ticket ∧ other = client ∨ (number, other) ∈ roster.byTicket ∧ number ≠ ticket := by
  simp [enrol]

namespace Inverse

/-- A client has one ticket, and a ticket one client. -/
theorem eq_iff (h : roster.Inverse) (hclient : (client, ticket) ∈ roster.byClient)
    (hother : (other, number) ∈ roster.byClient) : client = other ↔ ticket = number := by
  constructor
  · rintro rfl
    exact congrArg Prod.snd (List.inj_on_of_nodup_map h.clients hclient hother rfl)
  · rintro rfl
    rw [h.swap] at hclient hother
    exact congrArg Prod.snd (List.inj_on_of_nodup_map h.tickets hclient hother rfl)

/-- The client of a ticket is found. -/
theorem client? (h : roster.Inverse) (hclient : (client, ticket) ∈ roster.byClient) :
    roster.client? ticket = some client := by
  rw [Roster.client?]
  cases hfind : roster.byTicket.find? fun e => e.1 = ticket with
  | none =>
    rw [List.find?_eq_none] at hfind
    exact absurd (decide_eq_true rfl) (hfind _ ((h.swap client ticket).1 hclient))
  | some e =>
    obtain ⟨number, other⟩ := e
    have hmem := (h.swap other number).2 (List.mem_of_find?_eq_some hfind)
    have hnumber : number = ticket := by simpa using List.find?_some hfind
    rw [Option.map_some, ((h.eq_iff hclient hmem).2 hnumber.symm)]

/-- To enrol a new client under a new ticket leaves the two halves inverse to each other. -/
theorem enrol (h : roster.Inverse) (hclient : roster.contains client = false)
    (hticket : ∀ other, (other, ticket) ∉ roster.byClient) :
    (roster.enrol client ticket).Inverse where
  clients := by
    simp only [Roster.enrol, List.map_cons, List.nodup_cons]
    refine ⟨?_, h.clients.sublist (List.filter_sublist.map _)⟩
    simp
  tickets := by
    simp only [Roster.enrol, List.map_cons, List.nodup_cons]
    refine ⟨?_, h.tickets.sublist (List.filter_sublist.map _)⟩
    simp
  swap other number := by
    rw [mem_enrol, mem_enrol_byTicket, h.swap]
    have hne : (number, other) ∈ roster.byTicket → other ≠ client ∧ number ≠ ticket := by
      intro hmem
      rw [← h.swap] at hmem
      refine ⟨?_, ?_⟩
      · rintro rfl
        exact absurd (contains_iff.2 ⟨number, hmem⟩) (by simp [hclient])
      · rintro rfl
        exact hticket other hmem
    constructor
    · rintro (⟨rfl, rfl⟩ | ⟨hmem, -⟩)
      · exact .inl ⟨rfl, rfl⟩
      · exact .inr ⟨hmem, (hne hmem).2⟩
    · rintro (⟨rfl, rfl⟩ | ⟨hmem, -⟩)
      · exact .inl ⟨rfl, rfl⟩
      · exact .inr ⟨hmem, (hne hmem).1⟩

/-- A ticket that is struck off goes, and its client goes with it. -/
theorem mem_strike (h : roster.Inverse) (hclient : (client, ticket) ∈ roster.byClient) :
    (other, number) ∈ (roster.strike ticket).byClient ↔
      (other, number) ∈ roster.byClient ∧ number ≠ ticket := by
  rw [Roster.strike, h.client? hclient]
  simp only [List.mem_filter, decide_eq_true_eq]
  exact and_congr_right fun hmem => not_congr (h.eq_iff hmem hclient)

/-- So does striking off a ticket. -/
theorem strike (h : roster.Inverse) (hclient : (client, ticket) ∈ roster.byClient) :
    (roster.strike ticket).Inverse where
  clients := by
    rw [Roster.strike, h.client? hclient]
    exact h.clients.sublist (List.filter_sublist.map _)
  tickets := by
    rw [Roster.strike, h.client? hclient]
    exact h.tickets.sublist (List.filter_sublist.map _)
  swap other number := by
    rw [h.mem_strike hclient, h.swap, Roster.strike, h.client? hclient]
    simp

end Inverse

end Roster

/-! ### Transfers -/

namespace Listening

/-- The transfers begun and not yet struck off, by client and ticket. -/
def entries (l : Listening) : List (Endpoint × Nat) := l.transfers.map fun t => (t.client, t.ticket)

/-- The clients of the transfers begun and not yet struck off. -/
def clients (l : Listening) : List Endpoint := l.transfers.map Transfer.client

/-- The roster is one of the transfers begun and not yet struck off, and no two of them are of one
client. -/
structure Enrolled (l : Listening) : Prop where
  inverse : l.roster.Inverse
  exact : ∀ client ticket, (client, ticket) ∈ l.roster.byClient ↔ (client, ticket) ∈ l.entries
  clients : l.clients.Nodup
  tickets : (l.transfers.map Transfer.ticket).Nodup

theorem clients_eq (l : Listening) : l.clients = l.entries.map Prod.fst := by
  rw [entries, List.map_map]
  rfl

theorem tickets_eq (l : Listening) :
    l.transfers.map Transfer.ticket = l.entries.map Prod.snd := by
  rw [entries, List.map_map]
  rfl

variable {l l' : Listening} {client : Endpoint} {bytes : Bytes} {host : Host}

/-- Whether a transfer has ended makes no difference to the roster. -/
theorem Enrolled.congr (h : l.Enrolled) (hroster : l'.roster = l.roster)
    (hentries : l'.entries = l.entries) : l'.Enrolled where
  inverse := hroster ▸ h.inverse
  exact := by
    rw [hroster, hentries]
    exact h.exact
  clients := by
    rw [clients_eq, hentries, ← clients_eq]
    exact h.clients
  tickets := by
    rw [tickets_eq, hentries, ← tickets_eq]
    exact h.tickets

/-- The clients on the roster are those with a transfer. -/
theorem Enrolled.contains_iff (h : l.Enrolled) :
    l.roster.contains client = true ↔ client ∈ l.clients := by
  rw [Roster.contains_iff]
  simp only [h.exact, entries, Listening.clients, List.mem_map, Prod.mk.injEq]
  constructor
  · rintro ⟨ticket, t, ht, rfl, -⟩
    exact ⟨t, ht, rfl⟩
  · rintro ⟨t, ht, rfl⟩
    exact ⟨t.ticket, t, ht, rfl, rfl⟩

/-- A datagram from a client with a transfer, and one that is no packet, make no difference. -/
theorem accept_of_contains (h : l.roster.contains client = true) :
    l.accept client bytes host = (l, host, []) := by
  rw [accept, if_pos h]

/-- What is no packet is let pass. -/
theorem accept_of_malformed {m : Malformed}
    (h : Packet.decode (bytes.take longestRequest) = .error m) :
    l.accept client bytes host = (l, host, []) := by
  simp [accept, h]

/-- Any other datagram begins a transfer. -/
theorem accept_of_decode {packet : Packet} (hclient : l.roster.contains client = false)
    (h : Packet.decode (bytes.take longestRequest) = .ok packet) :
    l.accept client bytes host =
      ({ l with
          transfers := l.transfers ++ [⟨l.nextTicket, client, (l.begin packet client host).1⟩]
          roster := l.roster.enrol client l.nextTicket
          nextTicket := l.nextTicket + 1 }, (l.begin packet client host).2) := by
  simp [accept, hclient, h]

/-- A client that has no transfer may be entered with one. -/
theorem Enrolled.enrol (h : l.Enrolled) (hcontains : l.roster.contains client = false)
    (hnew : ∀ t ∈ l.transfers, t.ticket ≠ l.nextTicket) {session : Option Session}
    (htransfers : l'.transfers = l.transfers ++ [⟨l.nextTicket, client, session⟩])
    (hroster : l'.roster = l.roster.enrol client l.nextTicket) : l'.Enrolled := by
  have hclient : client ∉ l.clients := by
    rw [← h.contains_iff, hcontains]
    exact Bool.false_ne_true
  have hticket : ∀ other, (other, l.nextTicket) ∉ l.roster.byClient := by
    intro other hmem
    rw [h.exact, entries, List.mem_map] at hmem
    obtain ⟨t, ht, heq⟩ := hmem
    exact hnew t ht (congrArg Prod.snd heq)
  constructor
  case inverse => exact hroster ▸ h.inverse.enrol hcontains hticket
  case exact =>
    intro other number
    rw [hroster, Roster.mem_enrol, h.exact]
    simp only [entries, htransfers, List.map_append, List.mem_append, List.map_cons, List.map_nil,
      List.mem_singleton, Prod.mk.injEq]
    constructor
    · rintro (heq | ⟨hmem, -⟩)
      · exact .inr heq
      · exact .inl hmem
    · rintro (hmem | heq)
      · refine .inr ⟨hmem, ?_⟩
        rintro rfl
        obtain ⟨t, ht, heq⟩ := List.mem_map.1 hmem
        exact hclient (List.mem_map.2 ⟨t, ht, congrArg Prod.fst heq⟩)
      · exact .inl heq
  case clients =>
    simp only [Listening.clients, htransfers, List.map_append, List.map_cons, List.map_nil]
    rw [← List.concat_eq_append]
    exact h.clients.concat hclient
  case tickets =>
    simp only [htransfers, List.map_append, List.map_cons, List.map_nil]
    rw [← List.concat_eq_append]
    refine h.tickets.concat ?_
    rw [List.mem_map]
    rintro ⟨t, ht, heq⟩
    exact hnew t ht heq

/-- A server that takes up a request keeps its roster in order, if the ticket is a new one. -/
theorem Enrolled.accept (h : l.Enrolled) (hnew : ∀ t ∈ l.transfers, t.ticket ≠ l.nextTicket) :
    (l.accept client bytes host).1.Enrolled := by
  cases hcontains : l.roster.contains client with
  | true =>
    rw [accept_of_contains hcontains]
    exact h
  | false =>
    cases hread : Packet.decode (bytes.take longestRequest) with
    | error m =>
      rw [accept_of_malformed hread]
      exact h
    | ok packet =>
      rw [accept_of_decode hcontains hread]
      exact h.enrol hcontains hnew rfl rfl

/-- A transfer that is struck off goes from the roster too. -/
theorem Enrolled.strike (h : l.Enrolled) {t : Transfer} (ht : t ∈ l.transfers) :
    (l.strike t.ticket).Enrolled := by
  have hclient : (t.client, t.ticket) ∈ l.roster.byClient :=
    (h.exact _ _).2 (List.mem_map.2 ⟨t, ht, rfl⟩)
  constructor
  case inverse => exact h.inverse.strike hclient
  case exact =>
    intro other number
    change _ ∈ (l.roster.strike t.ticket).byClient ↔ _
    rw [h.inverse.mem_strike hclient, h.exact]
    simp only [entries, Listening.strike, List.mem_map, List.mem_filter, decide_eq_true_eq,
      Prod.mk.injEq]
    constructor
    · rintro ⟨⟨t', ht', rfl, rfl⟩, hne⟩
      exact ⟨t', ⟨ht', hne⟩, rfl, rfl⟩
    · rintro ⟨t', ⟨ht', hne⟩, rfl, rfl⟩
      exact ⟨⟨t', ht', rfl, rfl⟩, hne⟩
  case clients => exact h.clients.sublist (List.filter_sublist.map _)
  case tickets => exact h.tickets.sublist (List.filter_sublist.map _)

/-- A transfer that is struck off leaves its client without one. -/
theorem Enrolled.not_mem_strike (h : l.Enrolled) {t : Transfer} (ht : t ∈ l.transfers) :
    t.client ∉ (l.strike t.ticket).clients := by
  simp only [Listening.clients, Listening.strike, List.mem_map, List.mem_filter, decide_eq_true_eq]
  rintro ⟨t', ⟨ht', hne⟩, heq⟩
  exact hne (congrArg Transfer.ticket (List.inj_on_of_nodup_map h.clients ht' ht heq))

/-! ### A server at work -/

/-- What may happen to a server next. -/
inductive Step : Listening → Listening → Prop where
  /-- A datagram comes to the listening port.  The next ticket may be any that no transfer has. -/
  | datagram {l : Listening} (ticket : Nat) (hnew : ∀ t ∈ l.transfers, t.ticket ≠ ticket)
      (client : Endpoint) (bytes : Bytes) (host : Host) :
    Step l (({ l with nextTicket := ticket } : Listening).accept client bytes host).1
  /-- A transfer under way goes on, or it ends for whatever reason. -/
  | moves {l : Listening} {before after : List Transfer} {t : Transfer} (session : Option Session)
      (htransfers : l.transfers = before ++ t :: after) (hunder : t.session.isSome) :
    Step l { l with transfers := before ++ { t with session } :: after }
  /-- A transfer that has ended is struck off. -/
  | strike {l : Listening} {t : Transfer} (ht : t ∈ l.transfers) (hended : t.session = none) :
    Step l (l.strike t.ticket)
  /-- The server is told to end, or not to heed what would have ended it. -/
  | told {l : Listening} (shutdown : Shutdown) (stopping : Bool) :
    Step l { l with shutdown, stopping }

/-- **No step brings the roster out of order.** -/
theorem Step.enrolled (h : Step l l') (hl : l.Enrolled) : l'.Enrolled := by
  cases h with
  | datagram ticket hnew client bytes host =>
    have hl : ({ l with nextTicket := ticket } : Listening).Enrolled := hl.congr rfl rfl
    exact hl.accept hnew
  | moves session htransfers hunder =>
    refine hl.congr rfl ?_
    simp [entries, htransfers]
  | strike ht hended => exact hl.strike ht
  | told shutdown stopping => exact hl.congr rfl rfl

/-- A server that has begun without transfers and done nothing but its work. -/
inductive Working : Listening → Prop where
  | idle {l : Listening} (htransfers : l.transfers = []) (hroster : l.roster = {}) : Working l
  | step {l l' : Listening} (h : Working l) (hstep : Step l l') : Working l'

/-- So the roster is in order whatever has happened. -/
theorem Working.enrolled (h : l.Working) : l.Enrolled := by
  induction h with
  | idle htransfers hroster =>
    constructor
    · rw [hroster]
      exact Roster.inverse_empty
    · simp [hroster, entries, htransfers]
    · simp [Listening.clients, htransfers]
    · simp [htransfers]
  | step h hstep ih => exact hstep.enrolled ih

/-- What comes of a request that is taken up: a session of its own answers it, from a port that was
bound for it, and it is under way as long as it waits.  If no port can be bound there is none. -/
inductive Undertakes (l : Listening) (client : Endpoint) (packet : Packet) (host : Host) :
    Option Session → Host → List Deed → Prop where
  | unbound {fault : Fault} {host' : Host}
      (hbind : host.bindFor client.ip l.timing = (.error fault, host')) :
    Undertakes l client packet host none host' []
  | underWay {port : UInt16} {bound host' : Host} {session : Session} {deeds : List Deed}
      (hbind : host.bindFor client.ip l.timing = (.ok port, bound))
      (hstart : Run.start (.server l.service port client l.timing (bound.clock + 1))
          (.answer packet client) { bound with clock := bound.clock + 1 } =
        (.waiting session, host', deeds)) :
    Undertakes l client packet host (some session) host' deeds
  | over {port : UInt16} {bound host' : Host} {ending : Ending} {deeds : List Deed}
      (hbind : host.bindFor client.ip l.timing = (.ok port, bound))
      (hstart : Run.start (.server l.service port client l.timing (bound.clock + 1))
          (.answer packet client) { bound with clock := bound.clock + 1 } =
        (.ended ending, host', deeds)) :
    Undertakes l client packet host none host' deeds

/-- A request is taken up: one transfer is added, with the next ticket, its client is enrolled with
it, and the session is the one that answers the request.  Nothing else of the server changes. -/
def TakesUp (l : Listening) (client : Endpoint) (packet : Packet) (host : Host)
    (result : Listening × Host × List Deed) : Prop :=
  ∃ session, l.Undertakes client packet host session result.2.1 result.2.2 ∧
    result.1 = { l with
      transfers := l.transfers ++ [⟨l.nextTicket, client, session⟩]
      roster := l.roster.enrol client l.nextTicket
      nextTicket := l.nextTicket + 1 }

/-- A transfer is begun by the session that answers the request. -/
theorem begin_undertakes (l : Listening) (client : Endpoint) (packet : Packet) (host : Host) :
    l.Undertakes client packet host (l.begin packet client host).1
      (l.begin packet client host).2.1 (l.begin packet client host).2.2 := by
  unfold Listening.begin
  rcases hbind : host.bindFor client.ip l.timing with ⟨_ | port, bound⟩
  · exact .unbound hbind
  · dsimp only [Host.readClock]
    rcases hstart : Run.start (.server l.service port client l.timing (bound.clock + 1))
        (.answer packet client) { bound with clock := bound.clock + 1 } with
      ⟨session | ending, host', deeds⟩
    · exact .underWay hbind hstart
    · exact .over hbind hstart

/-- A packet from a client without a transfer is taken up. -/
theorem Enrolled.takesUp (h : l.Enrolled) (hclient : client ∉ l.clients) {packet : Packet}
    (hread : Packet.decode (bytes.take longestRequest) = .ok packet) (host : Host) :
    l.TakesUp client packet host (l.accept client bytes host) := by
  rw [← h.contains_iff, Bool.not_eq_true] at hclient
  rw [accept_of_decode hclient hread]
  exact ⟨_, l.begin_undertakes client packet host, rfl⟩

/-- **One transfer for each client.**  Whatever has happened to a server, its roster is that of its
transfers and no two of these are of one client.  A datagram from a client with a transfer changes
nothing, and neither does one that is no packet; any other begins one transfer, whose session
answers it.  A client whose transfer has been struck off may begin another. -/
theorem Working.admits_once (h : l.Working) :
    l.Enrolled ∧
      (∀ client bytes host, client ∈ l.clients ∨
        (∃ m, Packet.decode (bytes.take longestRequest) = .error m) →
          l.accept client bytes host = (l, host, [])) ∧
      (∀ client bytes packet host, client ∉ l.clients →
        Packet.decode (bytes.take longestRequest) = .ok packet →
          l.TakesUp client packet host (l.accept client bytes host)) ∧
      ∀ t ∈ l.transfers, ∀ bytes packet host,
        Packet.decode (bytes.take longestRequest) = .ok packet →
          (l.strike t.ticket).TakesUp t.client packet host
            ((l.strike t.ticket).accept t.client bytes host) := by
  have hl := h.enrolled
  refine ⟨hl, ?_, ?_, ?_⟩
  · rintro client bytes host (hclient | ⟨m, hread⟩)
    · exact accept_of_contains (hl.contains_iff.2 hclient)
    · exact accept_of_malformed hread
  · exact fun client bytes packet host hclient hread => hl.takesUp hclient hread host
  · exact fun t ht bytes packet host hread =>
      (hl.strike ht).takesUp (hl.not_mem_strike ht) hread host

/-- A server before its first request. -/
def opened : Listening := { port := 69, service := { root := "r" }, timing := {} }

/-- A client, and another one on the same machine. -/
def caller : Endpoint := ⟨.v4 10 0 0 1, 40000, 0⟩

def neighbour : Endpoint := ⟨.v4 10 0 0 1, 40001, 0⟩

/-- A request for a file, as it comes to the listening port. -/
def asked : Bytes := (Packet.octetRequest .read "a" ∅).encode

/-- A host that has the file. -/
def stocked : Host where
  store := ⟨[("r/a", { content := [7, 8, 9] })]⟩

/-- The server when it has taken up the client's request. -/
def engaged : Listening := (opened.accept caller asked stocked).1

/-- The request is turned away when it is sent again and taken up when the other client sends it; it
is answered with the file, and the session waits for that to be acknowledged. -/
theorem admits_asked :
    engaged.Working ∧ (∀ host, engaged.accept caller asked host = (engaged, host, [])) ∧
      engaged.TakesUp neighbour (.octetRequest .read "a" ∅) stocked
        (engaged.accept neighbour asked stocked) ∧
      (engaged.accept neighbour asked stocked).1.transfers.map (fun t => t.session.isSome) =
        [true, true] ∧
      (engaged.accept neighbour asked stocked).2.2 = [.touched "r/a",
        .sent ⟨40001, neighbour, (Packet.data 1 [7, 8, 9]).encode⟩ false] := by
  have hread : Packet.decode (asked.take longestRequest) = .ok (.octetRequest .read "a" ∅) := by
    decide
  have hopened : opened.Working := .idle rfl rfl
  obtain ⟨-, -, htakesUp, -⟩ := hopened.admits_once
  obtain ⟨session, -, hengaged⟩ := htakesUp caller asked _ stocked List.not_mem_nil hread
  have hclients : engaged.clients = [caller] := by
    unfold engaged
    rw [hengaged]
    rfl
  have hworking : engaged.Working :=
    hopened.step (.datagram 0 (fun t ht => absurd ht List.not_mem_nil) caller asked stocked)
  obtain ⟨-, hturnsAway, htakesUp, -⟩ := hworking.admits_once
  rw [hclients] at hturnsAway htakesUp
  exact ⟨hworking, fun host => hturnsAway _ _ host (.inl List.mem_cons_self),
    htakesUp _ _ _ stocked (by decide) hread, by decide, by decide⟩

/-! ### A server that runs -/

/-- Tickets are given out in ascending order. -/
def Ticketed (l : Listening) : Prop := ∀ t ∈ l.transfers, t.ticket < l.nextTicket

/-- The next ticket is always above those in use. -/
theorem Ticketed.accept (h : l.Ticketed) : (l.accept client bytes host).1.Ticketed := by
  cases hcontains : l.roster.contains client with
  | true => rwa [accept_of_contains hcontains]
  | false =>
    cases hread : Packet.decode (bytes.take longestRequest) with
    | error m => rwa [accept_of_malformed hread]
    | ok packet =>
      rw [accept_of_decode hcontains hread]
      intro t ht
      rcases List.mem_append.1 ht with ht | ht
      · exact Nat.lt_succ_of_lt (h t ht)
      · obtain rfl := List.mem_singleton.1 ht
        exact Nat.lt_succ_self l.nextTicket

/-- An arrival at a transfer's port is for the first transfer under way there, and no other. -/
theorem forward_cases (port : UInt16) (arrival : Arrival) (transfers : List Transfer) :
    ((∀ host, forward port arrival host transfers = (transfers, host, [])) ∧
        ∀ t ∈ transfers, ∀ s ∈ t.session, s.port ≠ port) ∨
      ∃ before t after session, transfers = before ++ t :: after ∧ t.session = some session ∧
        session.port = port ∧ (∀ t ∈ before, ∀ s ∈ t.session, s.port ≠ port) ∧
        ∀ host, forward port arrival host transfers =
          (before ++ { t with
              session := sessionOf ((Run.waiting session).step arrival host).1 } :: after,
            ((Run.waiting session).step arrival host).2) := by
  induction transfers with
  | nil => exact .inl ⟨fun _ => rfl, fun t ht => absurd ht List.not_mem_nil⟩
  | cons t rest ih =>
    by_cases hport : ∃ session, t.session = some session ∧ session.port = port
    · obtain ⟨session, hsession, hport⟩ := hport
      refine .inr ⟨[], t, rest, session, rfl, hsession, hport, ?_, fun host => ?_⟩
      · exact fun t ht => absurd ht List.not_mem_nil
      · simp [forward, hsession, hport]
    · have hother : ∀ s ∈ t.session, s.port ≠ port := fun s hs heq => hport ⟨s, hs, heq⟩
      have hforward : ∀ host, forward port arrival host (t :: rest) =
          (t :: (forward port arrival host rest).1, (forward port arrival host rest).2) := by
        intro host
        rw [forward]
        cases hsession : t.session with
        | none => rfl
        | some session => exact if_neg (hother session hsession)
      rcases ih with ⟨heq, hrest⟩ | ⟨before, t', after, session, rfl, hsession, hport, hbefore, heq⟩
      · refine .inl ⟨fun host => ?_, List.forall_mem_cons.2 ⟨hother, hrest⟩⟩
        rw [hforward, heq]
      · refine .inr ⟨t :: before, t', after, session, rfl, hsession, hport,
          List.forall_mem_cons.2 ⟨hother, hbefore⟩, fun host => ?_⟩
        rw [hforward, heq]
        rfl

/-- Transfers that have ended may be struck off one after the other. -/
theorem Working.foldl_strike {ended : List Transfer} : ∀ {l : Listening}, l.Working →
    (ended.map Transfer.ticket).Nodup → (∀ t ∈ ended, t ∈ l.transfers ∧ t.session = none) →
      (ended.foldl (fun l t => l.strike t.ticket) l).Working := by
  induction ended with
  | nil => exact fun h _ _ => h
  | cons t rest ih =>
    intro l h hnodup hended
    rw [List.map_cons, List.nodup_cons] at hnodup
    obtain ⟨⟨ht, hnone⟩, hrest⟩ := List.forall_mem_cons.1 hended
    refine ih (h.step (.strike ht hnone)) hnodup.2 fun t' ht' => ⟨?_, (hrest t' ht').2⟩
    refine List.mem_filter.2 ⟨(hrest t' ht').1, decide_eq_true fun heq => hnodup.1 ?_⟩
    exact List.mem_map.2 ⟨t', ht', heq⟩

theorem Working.sweep (h : l.Working) : l.sweep.Working := by
  refine h.foldl_strike (h.enrolled.tickets.sublist (List.filter_sublist.map _)) fun t ht => ?_
  rw [List.mem_filter, Option.isNone_iff_eq_none] at ht
  exact ht

/-- To strike transfers off adds none, and the next ticket stays. -/
theorem foldl_strike_subset (ended : List Transfer) (l : Listening) :
    (ended.foldl (fun l t => l.strike t.ticket) l).transfers ⊆ l.transfers ∧
      (ended.foldl (fun l t => l.strike t.ticket) l).nextTicket = l.nextTicket := by
  induction ended generalizing l with
  | nil => exact ⟨fun _ ht => ht, rfl⟩
  | cons t rest ih =>
    obtain ⟨hsubset, hnext⟩ := ih (l.strike t.ticket)
    exact ⟨fun t' ht' => List.filter_sublist.subset (hsubset ht'), hnext⟩

theorem Ticketed.sweep (h : l.Ticketed) : l.sweep.Ticketed := by
  obtain ⟨hsubset, hnext⟩ := foldl_strike_subset (l.transfers.filter fun t => t.session.isNone) l
  intro t ht
  exact hnext.symm ▸ h t (hsubset ht)

end Listening

namespace Serving

/-- A server from its start on, whatever it receives and is told. -/
inductive Runs : Serving → Prop where
  | start (server : Server) (host : Host) : Runs (start server host).1
  | receive {serving : Serving} (h : Runs serving) (port : UInt16) (arrival : Arrival)
      (host : Host) : Runs (serving.receive port arrival host).1
  | order {serving : Serving} (h : Runs serving) (cause : Shutdown) (host : Host) :
    Runs (serving.order cause host).1
  | deafen {serving : Serving} (h : Runs serving) : Runs serving.deafen

/-- What holds of a server for as long as it listens. -/
def While (holds : Listening → Prop) : Serving → Prop
  | listening l => holds l
  | _ => True

/-- A server at work, which gives out its tickets in ascending order. -/
def Sound (l : Listening) : Prop := l.Working ∧ l.Ticketed

/-- A datagram comes to the listening port. -/
theorem Sound.accept {l : Listening} (h : Sound l) (client : Endpoint) (bytes : Bytes)
    (host : Host) : Sound (l.accept client bytes host).1 := by
  have hstep := Listening.Step.datagram l.nextTicket (fun t ht => Nat.ne_of_lt (h.2 t ht)) client
    bytes host
  exact ⟨h.1.step hstep, h.2.accept⟩

/-- A transfer goes on or ends. -/
theorem Sound.moves {l : Listening} (h : Sound l) {before after : List Transfer} {t : Transfer}
    (htransfers : l.transfers = before ++ t :: after) (hunder : t.session.isSome)
    (session : Option Session) :
    Sound { l with transfers := before ++ { t with session } :: after } := by
  obtain ⟨hworking, hticketed⟩ := h
  refine ⟨hworking.step (.moves session htransfers hunder), fun t' ht' => ?_⟩
  simp only [Listening.Ticketed, htransfers, List.mem_append, List.mem_cons] at hticketed ht'
  rcases ht' with ht' | rfl | ht'
  · exact hticketed t' (.inl ht')
  · exact hticketed t (.inr (.inl rfl))
  · exact hticketed t' (.inr (.inr ht'))

theorem Sound.sweep {l : Listening} (h : Sound l) : Sound l.sweep := ⟨h.1.sweep, h.2.sweep⟩

theorem while_settle {l : Listening} (h : Sound l) (host : Host) :
    (settle l host).1.While Sound := by
  unfold settle
  dsimp only
  split
  · trivial
  · exact h.sweep

theorem while_receive {l : Listening} (h : Sound l) (port : UInt16) (arrival : Arrival)
    (host : Host) : ((listening l).receive port arrival host).1.While Sound := by
  unfold receive
  dsimp only
  split
  · -- The arrival is at the port of a transfer, if at any.
    rcases Listening.forward_cases port arrival l.transfers with ⟨heq, -⟩ |
      ⟨before, t, after, session, htransfers, hsession, -, -, heq⟩
    · rw [heq]
      exact while_settle h host
    · rw [heq]
      exact while_settle (h.moves htransfers (by simp [hsession]) _) _
  · split
    · exact h
    · split
      · next client bytes => exact while_settle (h.accept client bytes host) _
      · exact h
      · trivial

/-- **A server that runs does nothing else.**  Whatever it receives and is told, for as long as it
listens it has begun without transfers and done nothing but the work above. -/
theorem Runs.working {serving : Serving} (h : Runs serving) : serving.While Sound := by
  induction h with
  | start server host =>
    unfold Serving.start
    split
    · exact ⟨.idle rfl rfl, fun t ht => absurd ht List.not_mem_nil⟩
    · trivial
  | @receive serving h port arrival host ih =>
    cases serving with
    | listening l => exact while_receive ih port arrival host
    | stopped | failed => trivial
  | @order serving h cause host ih =>
    cases serving with
    | listening l =>
      unfold Serving.order
      dsimp only
      split
      · exact while_settle ⟨ih.1.step (.told l.shutdown true), ih.2⟩ host
      · exact ih
    | stopped | failed => trivial
  | @deafen serving h ih =>
    cases serving with
    | listening l =>
      unfold Serving.deafen
      dsimp only
      split
      · exact ⟨ih.1.step (.told .never l.stopping), ih.2⟩
      · exact ih
    | stopped | failed => trivial

end Serving

end TrivialFtp
