import TrivialFtp.Proofs.Order
import TrivialFtp.Proofs.Safety

/-!
# Proofs: what the success of a sender says of the receiver

In a network that may lose datagrams but neither repeats nor reorders them, a sender that comes
through can rely on the receiver having taken every block, whatever either side meets on the way.
Only what the receiver meets afterwards, when it closes its target, is not told to the sender.

- `Setting.InOrder`: what may happen in such a network.
- `Setting.ends_of_completed`: how the receiver ends when the sender has come through.
-/

namespace TrivialFtp

theorem Party.other_ne (party : Party) : party.other ≠ party := by
  cases party <;> decide

theorem Errand.sender_eq (errand : Errand) : errand.sender = errand.receiver.other := by
  cases errand <;> rfl

namespace Exchange

variable (x : Exchange) (party : Party)

/-- What is on its way from a side, the oldest first. -/
def queue : List Bytes :=
  (x.flight.filter fun parcel => parcel.sender = party).map fun parcel => parcel.datagram.bytes

theorem queue_turn (result : Run × Host × List Deed) :
    (x.turn party result).queue party = x.queue party ++ World.spoken result.2.2 := by
  have hown : ((World.sent result.2.2).map (Parcel.mk party)).filter
      (fun parcel => parcel.sender = party) = (World.sent result.2.2).map (Parcel.mk party) := by
    rw [List.filter_eq_self]
    rintro parcel hparcel
    obtain ⟨d, -, rfl⟩ := List.mem_map.1 hparcel
    exact decide_eq_true rfl
  rw [queue, flight_turn, List.filter_append, hown, List.map_append, List.map_map]
  rfl

theorem queue_turn_of_ne {party q : Party} (hne : q ≠ party) (result : Run × Host × List Deed) :
    (x.turn party result).queue q = x.queue q := by
  have hother : ((World.sent result.2.2).map (Parcel.mk party)).filter
      (fun parcel => parcel.sender = q) = [] := by
    rw [List.filter_eq_nil_iff]
    rintro parcel hparcel
    obtain ⟨d, -, rfl⟩ := List.mem_map.1 hparcel
    exact fun he => hne (of_decide_eq_true he).symm
  rw [queue, flight_turn, List.filter_append, hother, List.append_nil]
  rfl

variable {x}

theorem turn_idle {run : Run} (h : x.run party = some run) :
    x.turn party (run, x.host party, []) = x := by
  obtain ⟨client, clientHost, server, serverHost, flight, sent⟩ := x
  cases party with
  | client =>
    obtain rfl : client = run := Option.some.inj h
    simp [turn, clientTurn, post, host]
  | server =>
    obtain rfl : server = some run := h
    simp [turn, serverTurn, post, host]

/-- The oldest datagram of a side is taken from what is on its way. -/
theorem queue_of_oldest {before after : List Parcel} {parcel : Parcel}
    (hflight : x.flight = before ++ parcel :: after)
    (holdest : ∀ earlier ∈ before, earlier.sender ≠ parcel.sender) :
    x.queue parcel.sender = parcel.datagram.bytes ::
        Exchange.queue { x with flight := before ++ after } parcel.sender ∧
      x.queue parcel.sender.other =
        Exchange.queue { x with flight := before ++ after } parcel.sender.other := by
  have hbefore : before.filter (fun earlier => earlier.sender = parcel.sender) = [] := by
    rw [List.filter_eq_nil_iff]
    exact fun earlier hearlier he => holdest earlier hearlier (of_decide_eq_true he)
  have hparcel : ¬ parcel.sender = parcel.sender.other := fun h => Party.other_ne _ h.symm
  simp only [queue, hflight, List.filter_append, hbefore, List.filter_cons, hparcel, decide_true,
    decide_false, if_true, Bool.false_eq_true, if_false, List.nil_append, List.map_cons, and_self]

theorem queue_sublist {before after : List Parcel} {parcel : Parcel}
    (hflight : x.flight = before ++ parcel :: after) :
    (Exchange.queue { x with flight := before ++ after } party).Sublist (x.queue party) := by
  refine List.Sublist.map _ (List.Sublist.filter _ ?_)
  rw [hflight]
  exact List.Sublist.append (List.Sublist.refl before) (List.sublist_cons_self parcel after)

end Exchange

namespace Setting

variable (t : Setting)

/-- What may happen in a network that neither repeats nor reorders: the oldest datagram of one of
the sides arrives, or a datagram is lost, or someone runs out of patience. -/
inductive InOrder : Exchange → Exchange → Prop where
  | deliver {x : Exchange} {before after : List Parcel} {parcel : Parcel}
      (hflight : x.flight = before ++ parcel :: after)
      (holdest : ∀ earlier ∈ before, earlier.sender ≠ parcel.sender) :
    InOrder x (t.arrive { x with flight := before ++ after } parcel)
  | lose {x : Exchange} {before after : List Parcel} {parcel : Parcel}
      (hflight : x.flight = before ++ parcel :: after) :
    InOrder x { x with flight := before ++ after }
  | silence {x : Exchange} (party : Party) : InOrder x (x.silence party)
  | pass {x : Exchange} (time : Nat) (party : Party) : InOrder x (x.pass time party)

/-- What happens in an orderly network happens in order. -/
theorem inOrder_of_orderable {x x' : Exchange} (h : t.Orderable x x') :
    Relation.ReflTransGen t.InOrder x x' := by
  induction h with
  | refl => exact .refl
  | tail _ hstep ih =>
    obtain ⟨hflight, holdest⟩ := hstep
    exact ih.tail (.deliver hflight holdest)

/-- What the arrival of a datagram comes to: nothing, a step of the session that it reaches, or the
opening of the server's. -/
inductive Arrives (x : Exchange) (parcel : Parcel) : Exchange → Prop where
  | idle : Arrives x parcel x
  | steps {run : Run} {source : Endpoint} (hrun : x.run parcel.sender.other = some run) :
    Arrives x parcel (x.turn parcel.sender.other
      (run.step (.datagram source parcel.datagram.bytes) (x.host parcel.sender.other)))
  | opens {direction : Direction} {filename mode : String} {options : Options} {source : Endpoint}
      (hsender : parcel.sender = .client) (hnone : x.server = none)
      (hread : Packet.decode (parcel.datagram.bytes.take Listening.longestRequest) =
        .ok (.request direction filename mode options)) :
    Arrives x parcel (x.turn .server
      (t.answer (.request direction filename mode options) source x.serverHost))

theorem arrives (x : Exchange) (parcel : Parcel) : t.Arrives x parcel (t.arrive x parcel) := by
  obtain ⟨sender, d⟩ := parcel
  -- A run that is not at the port of a datagram takes no notice.
  have hreceive : ∀ {run : Run} (source : Endpoint), x.run sender.other = some run →
      t.Arrives x ⟨sender, d⟩ (x.turn sender.other
        (run.receive d.target.port (.datagram source d.bytes) (x.host sender.other))) := by
    intro run source hrun
    rcases Pair.receive_cases run d.target.port (.datagram source d.bytes) (x.host sender.other)
      with hstep | hidle
    · rw [hstep]
      exact .steps hrun
    · rw [hidle, Exchange.turn_idle _ hrun]
      exact .idle
  cases sender with
  | server => exact hreceive _ rfl
  | client =>
    unfold arrive
    simp only
    split
    · split
      · next hnone hread => exact .opens rfl hnone hread
      · exact .idle
    · split
      · exact .idle
      · next hrun => exact hreceive _ hrun

/-! ### When both sides have begun -/

/-- Both sides have begun, and stand to each other as they should. -/
def Opened (c : Pact) (receiver : Party) (x : Exchange) : Prop :=
  ∃ s r, x.run receiver.other = some s ∧ x.run receiver = some r ∧
    c.Stage s r (x.host receiver) (x.queue receiver.other) (x.queue receiver)

variable {t} {c : Pact} {receiver : Party} {x x' : Exchange} {arrival : Arrival}

theorem Opened.sender_turn {s r : Run} (hr : x.run receiver = some r)
    (hstage : c.Stage s r (x.host receiver) (x.queue receiver.other)
      (arrival.bytes ++ x.queue receiver)) :
    Opened c receiver (x.turn receiver.other (s.step arrival (x.host receiver.other))) := by
  refine ⟨_, r, Exchange.run_turn _ _ _, ?_, ?_⟩
  · rw [Exchange.run_turn_of_other]
    exact hr
  · rw [Exchange.host_turn_of_other, Exchange.queue_turn,
      Exchange.queue_turn_of_ne x (Party.other_ne receiver).symm]
    exact hstage.sender_step _

theorem Opened.receiver_turn {s r : Run} (hs : x.run receiver.other = some s)
    (hstage : c.Stage s r (x.host receiver) (arrival.bytes ++ x.queue receiver.other)
      (x.queue receiver)) :
    Opened c receiver (x.turn receiver (r.step arrival (x.host receiver))) := by
  refine ⟨s, _, ?_, Exchange.run_turn _ _ _, ?_⟩
  · rw [Exchange.run_turn_other]
    exact hs
  · rw [Exchange.host_turn, Exchange.queue_turn,
      Exchange.queue_turn_of_ne x (Party.other_ne receiver)]
    exact hstage.receiver_step

/-- A side deals with what has come from the other, or with nothing. -/
theorem Opened.turn {flight : List Parcel} {q : Party} {run : Run} (h : Opened c receiver x)
    (hrun : x.run q = some run)
    (hfrom : x.queue q.other = arrival.bytes ++ Exchange.queue { x with flight } q.other)
    (hown : x.queue q = Exchange.queue { x with flight } q) :
    Opened c receiver (Exchange.turn { x with flight } q (run.step arrival (x.host q))) := by
  obtain ⟨s, r, hs, hr, hstage⟩ := h
  rcases q.eq_or_eq_other receiver with rfl | rfl
  · obtain rfl := Option.some.inj (hr.symm.trans hrun)
    rw [hfrom, hown] at hstage
    exact Opened.receiver_turn (x := { x with flight }) hs hstage
  · obtain rfl := Option.some.inj (hs.symm.trans hrun)
    rw [Party.other_other] at hfrom
    rw [hfrom, hown] at hstage
    exact Opened.sender_turn (x := { x with flight }) hr hstage

/-- Nothing but a turn of one of the sides matters. -/
theorem Opened.congr (h : Opened c receiver x) (hrun : ∀ q, x'.run q = x.run q)
    (hsame : (x.host receiver).SameFiles (x'.host receiver))
    (hqueue : ∀ q, (x'.queue q).Sublist (x.queue q)) : Opened c receiver x' := by
  obtain ⟨s, r, hs, hr, hstage⟩ := h
  exact ⟨s, r, (hrun _).trans hs, (hrun _).trans hr, hstage.congr hsame (hqueue _) (hqueue _)⟩

theorem Opened.server_isSome (h : Opened c receiver x) : x.server ≠ none := by
  obtain ⟨s, r, hs, hr, -⟩ := h
  intro hnone
  cases receiver with
  | client => exact nomatch hnone.symm.trans hs
  | server => exact nomatch hnone.symm.trans hr

/-- **One step.**  Whatever happens to sender and receiver, they stand as they should. -/
theorem Opened.step (h : Opened c receiver x) (hstep : t.InOrder x x') :
    Opened c receiver x' := by
  cases hstep with
  | @deliver before after parcel hflight holdest =>
    obtain ⟨hfrom, hown⟩ := Exchange.queue_of_oldest hflight holdest
    have harrives := t.arrives { x with flight := before ++ after } parcel
    generalize t.arrive { x with flight := before ++ after } parcel = y at harrives
    cases harrives with
    | idle => exact h.congr (fun _ => rfl) (.refl _) fun q => Exchange.queue_sublist q hflight
    | @steps run source hrun =>
      refine h.turn hrun ?_ hown
      rw [Party.other_other]
      exact hfrom
    | opens hsender hnone hread => exact absurd hnone h.server_isSome
  | lose hflight =>
    exact h.congr (fun _ => rfl) (.refl _) fun q => Exchange.queue_sublist q hflight
  | silence party =>
    cases party with
    | client => exact @Opened.turn c receiver x .silence x.flight .client x.client h rfl rfl rfl
    | server =>
      unfold Exchange.silence
      simp only
      split
      · exact h
      · next run hrun =>
        exact @Opened.turn c receiver x .silence x.flight .server run h hrun rfl rfl
  | pass time party =>
    refine h.congr ?_ ?_ ?_
    · cases party <;> exact fun q => by cases q <;> rfl
    · cases party <;> cases receiver <;> exact ⟨rfl, rfl⟩
    · cases party <;> exact fun q => List.Sublist.refl _

/-! ### Before the server has begun -/

variable (t)

/-- What closing the target comes to, be it a file of the client's host or of the server's. -/
def closeFault (clientHost serverHost : Host) : Option Fault :=
  (Stream.writing t.target).closeFault
    (match t.errand with
    | .fetch _ => clientHost
    | .deliver _ _ => serverHost)

/-- What both sides of a setting rely on, if the size that the server tells is a word. -/
def pact (clientHost serverHost : Host)
    (htold : ∀ n, t.service.told ((t.source? serverHost.store).bind Prod.snd) = some n →
      n < Numeral.word64) : Pact where
  role := t.errand.role
  request := t.request
  asked := t.asked.2
  told := t.service.told ((t.source? serverHost.store).bind Prod.snd)
  target := t.target
  fault := t.closeFault clientHost serverHost
  told_lt := htold
  unnumbered := rfl

/-- The client has sent its request, or has failed, and the server has not heard of it. -/
structure Unopened (c : Pact) (serverHost : Host) (x : Exchange) : Prop where
  server : x.server = none
  client : (∃ ending, x.client = .ended ending ∧ ∀ tally, ending ≠ .completed tally) ∨
    ∃ s, x.client = .waiting s ∧ c.Asks s ∧ (c.role = .download → c.Closes x.clientHost)
  asked : ∀ bytes ∈ x.queue .client, bytes = c.request.encode ∨
    ∃ code message, bytes = (Packet.error code message).encode
  unheard : x.queue .server = []
  files : serverHost.SameFiles x.serverHost

variable {t} {clientHost serverHost : Host}
  {htold : ∀ n, t.service.told ((t.source? serverHost.store).bind Prod.snd) = some n →
    n < Numeral.word64}

theorem Unopened.unnumbered (h : Unopened c serverHost x) :
    Says (·.number? = none) (x.queue .client) := by
  intro bytes hbytes
  rcases h.asked bytes hbytes with rfl | ⟨code, message, rfl⟩
  · exact Conduct.tells_unnumbered c.unnumbered
  · exact Conduct.tells_unnumbered rfl

/-- Nothing but a turn of the client matters. -/
theorem Unopened.congr (h : Unopened c serverHost x) (hclient : x'.client = x.client)
    (hserver : x'.server = x.server) (hsame : x.clientHost.SameFiles x'.clientHost)
    (hsame' : x.serverHost.SameFiles x'.serverHost)
    (hqueue : ∀ q, (x'.queue q).Sublist (x.queue q)) : Unopened c serverHost x' where
  server := hserver.trans h.server
  client := by
    rw [hclient]
    exact h.client.imp_right fun ⟨s, hs, hasks, hcloses⟩ =>
      ⟨s, hs, hasks, fun hrole => (hcloses hrole).congr hsame⟩
  asked bytes hbytes := h.asked bytes ((hqueue .client).subset hbytes)
  unheard := List.sublist_nil.1 (h.unheard ▸ hqueue .server)
  files := h.files.trans hsame'

/-- The client has acted. -/
theorem Unopened.turn (h : Unopened c serverHost x) {result : Run × Host × List Deed}
    (hclient : (∃ ending, result.1 = .ended ending ∧ ∀ tally, ending ≠ .completed tally) ∨
      ∃ s, result.1 = .waiting s ∧ c.Asks s ∧ (c.role = .download → c.Closes result.2.1))
    (hasked : ∀ letter ∈ World.sent result.2.2,
      letter.bytes = c.request.encode ∨ letter.IsReport) :
    Unopened c serverHost (x.turn .client result) where
  server := h.server
  client := hclient
  asked := by
    rw [Exchange.queue_turn]
    exact List.forall_mem_append.2 ⟨h.asked, List.forall_mem_map.2 hasked⟩
  unheard := by
    rw [Exchange.queue_turn_of_ne x (by decide)]
    exact h.unheard
  files := h.files

theorem Unopened.failed (h : Unopened c serverHost x) {result : Run × Host × List Deed}
    (hfails : Run.Fails result) : Unopened c serverHost (x.turn .client result) :=
  h.turn (.inl hfails.ended) fun letter hletter => .inr (hfails.sent letter hletter)

/-- The client runs out of patience. -/
theorem Unopened.silence (h : Unopened c serverHost x) :
    Unopened c serverHost (x.silence .client) := by
  change Unopened c serverHost (x.turn .client (x.client.step .silence x.clientHost))
  rcases h.client with ⟨ending, hended, -⟩ | ⟨s, hs, hasks, hcloses⟩
  · have hidle : x.client.step .silence x.clientHost = (x.client, x.clientHost, []) := by
      rw [hended]
      rfl
    have hsame : x.turn .client (x.client, x.clientHost, []) = x := Exchange.turn_idle .client rfl
    rw [hidle, hsame]
    exact h
  · have hresponds := Run.responds (by rw [hasks.phase]; rfl) .silence x.clientHost (s := s)
    rw [hs]
    generalize (Run.waiting s).step .silence x.clientHost = result at hresponds
    cases hresponds with
    | rests halike hfiles hsent =>
      have hagain := Session.said_again hasks.lastSent hsent
      exact h.turn (.inr ⟨_, rfl, hasks.alike halike, fun hrole => (hcloses hrole).congr hfiles⟩)
        fun letter hletter => .inl (hagain letter hletter)
    | fails hfails => exact h.failed hfails

/-! ### The server begins -/

section Opens

variable {scene scene' : Scene} {source : Endpoint} {filename mode : String} {options : Options}
  {phase : Phase}

variable (clientHost htold) in
/-- A server that serves a reader has said something, and waits to be told that it has arrived. -/
theorem awaits_of_served {target : Target} (herrand : t.errand = .fetch target)
    (hasked : t.asked = (filename, options)) (hrole : scene.session.role = .serve t.service)
    (hsame : serverHost.SameFiles scene.host) (hsilent : World.sent scene.deeds = [])
    (hturn : Turn source scene .idle (.request .read filename mode options) phase scene') :
    ∃ j p final s host deeds, Run.rest (scene'.enter phase) = (.waiting s, host, deeds) ∧
      (t.pact clientHost serverHost htold).Awaits j p final s ∧
      (∀ letter ∈ World.sent deeds, letter.bytes = p.encode) ∧
      (j = 0 ∨ j = 1 ∧ (t.pact clientHost serverHost htold).offer.options.isEmpty = true) := by
  have hoffer : ∀ {found : Node} {size : Option Nat},
      t.source? serverHost.store = some (found, size) →
      Terms.offer options (t.service.told size) = (t.pact clientHost serverHost htold).offer := by
    intro found size hsource
    change _ = Terms.offer t.asked.2 (t.service.told ((t.source? serverHost.store).bind Prod.snd))
    rw [hsource, hasked]
    rfl
  cases hturn with
  | served hadmits hserved hgranted hgive =>
    obtain ⟨rfl, hsource⟩ := source_of_served herrand hasked hrole hsame hadmits hserved
    obtain ⟨deeds, rfl, hsilent'⟩ := Act.served_host hserved
    rw [hoffer hsource] at hgranted
    obtain ⟨p, final, s, host, deeds', hrest, hawaits, hsent⟩ :=
      Pact.awaits_of_give (i := 0) hgive (congrArg Terms.Offer.terms (hoffer hsource)) rfl
        (hsilent'.trans hsilent)
    exact ⟨1, p, final, s, host, deeds', hrest, hawaits, hsent, .inr ⟨rfl, hgranted⟩⟩
  | offered hadmits hserved hgranted hsend =>
    obtain ⟨rfl, hsource⟩ := source_of_served herrand hasked hrole hsame hadmits hserved
    obtain ⟨deeds, rfl, hsilent'⟩ := Act.served_host hserved
    rw [hoffer hsource] at hgranted ⊢
    rw [Run.rest_waiting rfl]
    refine ⟨0, _, false, _, _, _, rfl, ⟨.inr rfl, rfl, rfl, rfl, rfl, .offers hgranted⟩,
      fun letter hletter => ?_, .inl rfl⟩
    exact congrArg Datagram.bytes (World.eq_of_mem_sent (hsilent'.trans hsilent) hletter)

variable (clientHost htold) in
/-- A server that takes a writer's file is ready for block 1, and has said so. -/
theorem wants_of_created {origin : Origin} {node : Node} (herrand : t.errand = .deliver origin node)
    (hasked : t.asked = (filename, options)) (hrole : scene.session.role = .serve t.service)
    (hsame : serverHost.SameFiles scene.host) (hsilent : World.sent scene.deeds = [])
    (hturn : Turn source scene .idle (.request .write filename mode options) phase scene') :
    ∃ s host deeds, Run.rest (scene'.enter phase) = (.waiting s, host, deeds) ∧
      (t.pact clientHost serverHost htold).Wants 0 s ∧
      (t.pact clientHost serverHost htold).Closes host ∧
      ∀ letter ∈ World.sent deeds,
        letter.bytes = (t.pact clientHost serverHost htold).offer.reply.encode := by
  have hoffer : Terms.offer options (t.service.told options.announced) =
      (t.pact clientHost serverHost htold).offer := by
    change _ = Terms.offer t.asked.2 (t.service.told ((t.source? serverHost.store).bind Prod.snd))
    rw [source?, herrand, hasked]
    rfl
  have hupload : (t.pact clientHost serverHost htold).role = .upload :=
    congrArg Errand.role herrand
  cases hturn with
  | @created _ _ _ service stream host hadmits hcreate hsend =>
    obtain rfl : t.service = service := Option.some.inj ((congrArg Role.service? hrole).symm.trans
      hadmits.serving)
    obtain ⟨rfl, store, hstore, rfl⟩ := Stream.create_host hcreate
    have htarget : t.target = .file (Path.join t.service.root filename) := by
      rw [target, herrand, hasked]
    rw [Run.rest_waiting rfl, hoffer]
    refine ⟨_, _, _, rfl, ⟨rfl, rfl, rfl, congrArg Stream.writing htarget.symm, ?_⟩, ?_,
      fun letter hletter => ?_⟩
    · exact congrArg some (Pact.first_of_upload hupload).symm
    · change (Stream.writing t.target).closeFault _ = t.closeFault clientHost serverHost
      unfold closeFault
      rw [htarget, herrand]
      refine (Target.closeFault_create hstore).trans ?_
      unfold Stream.closeFault
      rw [hsame.store]
    · refine congrArg Datagram.bytes (World.eq_of_mem_sent ?_ hletter)
      exact (World.sent_append_silent scene.deeds rfl).trans hsilent

end Opens

/-- The client's request has come to the server. -/
theorem Unopened.opens {direction : Direction} {filename mode : String} {options : Options}
    (h : Unopened (t.pact clientHost serverHost htold) serverHost x)
    (hasked : direction = t.errand.direction ∧ t.asked = (filename, options))
    (source : Endpoint) :
    Opened (t.pact clientHost serverHost htold) t.errand.receiver (x.turn .server
      (t.answer (.request direction filename mode options) source x.serverHost)) := by
  obtain ⟨rfl, hasked⟩ := hasked
  have hanswers := t.answers (.request t.errand.direction filename mode options) source x.serverHost
  generalize t.answer (.request t.errand.direction filename mode options) source x.serverHost =
    result at hanswers
  cases herrand : t.errand with
  | fetch target =>
    refine ⟨_, x.client, Exchange.run_turn _ _ _, rfl, ?_⟩
    change Pact.Stage _ result.1 x.client x.clientHost ((x.turn .server result).queue .server)
      ((x.turn .server result).queue .client)
    rw [Exchange.queue_turn, Exchange.queue_turn_of_ne x (by decide), h.unheard]
    rcases hanswers with ⟨scene, scene', phase, hrole, hsame, hsilent, hturn, hrest⟩ | hfails
    · rw [herrand] at hturn
      obtain ⟨j, p, final, s, host, deeds, hrest', hawaits, hsent, hfirst⟩ :=
        awaits_of_served clientHost htold herrand hasked hrole
          (h.files.trans hsame) hsilent hturn
      obtain rfl := hrest.trans hrest'
      have hsaid := says_repeated hawaits.said.passes hsent
      refine .coming rfl hawaits hsaid.then_of_second (h.unnumbered.mono fun _ hq => .of_none hq) ?_
      rcases h.client with ⟨ending, hended, -⟩ | ⟨r, hr, hasks, hcloses⟩
      · exact hended ▸ .ended
      · have hdownload : (t.pact clientHost serverHost htold).role = .download :=
          congrArg Errand.role herrand
        exact hr ▸ .asks hdownload hasks (hcloses hdownload) hsaid hfirst
    · exact .of_failed hfails
  | deliver origin node =>
    refine ⟨x.client, _, rfl, Exchange.run_turn _ _ _, ?_⟩
    change Pact.Stage _ x.client result.1 result.2.1 ((x.turn .server result).queue .client)
      ((x.turn .server result).queue .server)
    rw [Exchange.queue_turn, Exchange.queue_turn_of_ne x (by decide), h.unheard]
    rcases h.client with ⟨ending, hended, hfailed⟩ | ⟨s, hs, hasks, -⟩
    · exact .lost hended hfailed
    · have hupload : (t.pact clientHost serverHost htold).role = .upload :=
        congrArg Errand.role herrand
      rcases hanswers with ⟨scene, scene', phase, hrole, hsame, hsilent, hturn, hrest⟩ | hfails
      · rw [herrand] at hturn
        obtain ⟨r, host, deeds, hrest', hwants, hcloses, hsent⟩ :=
          wants_of_created clientHost htold herrand hasked hrole
            (h.files.trans hsame) hsilent hturn
        obtain rfl := hrest.trans hrest'
        exact .asking hs hupload hasks h.unnumbered
          ((says_repeated Pact.passes_reply hsent).mono fun _ => .inl) (.wants hwants hcloses)
      · obtain ⟨ending, hended, -⟩ := hfails.ended
        exact .asking hs hupload hasks h.unnumbered
          (hfails.reports.mono fun _ => .inr) (hended ▸ .ended)

/-- **One step.**  The transfer stays as it is before it has begun, or it begins. -/
theorem Unopened.step (h : Unopened (t.pact clientHost serverHost htold) serverHost x)
    (hstep : t.InOrder x x') :
    Unopened (t.pact clientHost serverHost htold) serverHost x' ∨
      Opened (t.pact clientHost serverHost htold) t.errand.receiver x' := by
  cases hstep with
  | @deliver before after parcel hflight holdest =>
    have hleft : Unopened (t.pact clientHost serverHost htold) serverHost
        { x with flight := before ++ after } :=
      h.congr rfl rfl (.refl _) (.refl _) fun q => Exchange.queue_sublist q hflight
    obtain ⟨hfrom, -⟩ := Exchange.queue_of_oldest hflight holdest
    have harrives := t.arrives { x with flight := before ++ after } parcel
    generalize t.arrive { x with flight := before ++ after } parcel = y at harrives
    cases harrives with
    | idle => exact .inl hleft
    | steps hrun =>
      -- The server has said nothing, and has no session.
      cases hsender : parcel.sender with
      | client =>
        rw [hsender] at hrun
        exact nomatch h.server.symm.trans hrun
      | server =>
        rw [hsender, h.unheard] at hfrom
        exact nomatch hfrom
    | @opens direction filename mode options source hsender hnone hread =>
      refine .inr (hleft.opens ?_ source)
      rw [hsender] at hfrom
      rcases h.asked parcel.datagram.bytes (hfrom ▸ List.mem_cons_self) with hbytes | ⟨_, _, hbytes⟩
      · rw [hbytes] at hread
        exact asked_of_decode hread
      · rw [hbytes] at hread
        have hopcode := Packet.opcode_decode_take (by decide) hread
        cases direction <;> exact nomatch hopcode
  | lose hflight =>
    exact .inl (h.congr rfl rfl (.refl _) (.refl _) fun q => Exchange.queue_sublist q hflight)
  | silence party =>
    cases party with
    | client => exact .inl h.silence
    | server =>
      unfold Exchange.silence
      simp only [h.server]
      exact .inl h
  | pass time party =>
    refine .inl (h.congr ?_ ?_ ?_ ?_ ?_)
    · cases party <;> rfl
    · cases party <;> rfl
    · cases party <;> exact ⟨rfl, rfl⟩
    · cases party <;> exact ⟨rfl, rfl⟩
    · cases party <;> exact fun q => List.Sublist.refl _

/-- The client begins, and the server listens. -/
theorem unopened_initial :
    Unopened (t.pact clientHost serverHost htold) serverHost (t.initial clientHost serverHost) := by
  have hbefore : Unopened (t.pact clientHost serverHost htold) serverHost
      { client := .ended .crashed, clientHost, server := none, serverHost } :=
    ⟨rfl, .inl ⟨_, rfl, nofun⟩, (fun _ hbytes => nomatch hbytes), rfl, .refl _⟩
  change Unopened _ serverHost (Exchange.turn
    { client := .ended .crashed, clientHost, server := none, serverHost } .client
    (t.launch clientHost))
  rcases t.launches clientHost with ⟨s, hrequests⟩ | hfails
  · -- Only a client that fetches has a target.
    have hfetches : t.errand.role = .download → ∃ target, t.errand = .fetch target := by
      cases t.errand with
      | fetch target => exact fun _ => ⟨target, rfl⟩
      | deliver origin node => exact nofun
    refine hbefore.turn (.inr ⟨s, hrequests.run, ⟨hrequests.phase, hrequests.role, hrequests.next,
      hrequests.lastSent, fun hrole => ?_⟩, fun hrole => ?_⟩)
      fun letter hletter => .inl (hrequests.sent letter hletter)
    · obtain ⟨target, herrand⟩ := hfetches hrole
      change s.stream = .writing t.target
      rw [hrequests.stream, Setting.target, herrand]
      rfl
    · obtain ⟨target, herrand⟩ := hfetches hrole
      change (Stream.writing t.target).closeFault _ = t.closeFault clientHost serverHost
      unfold closeFault Stream.closeFault
      rw [herrand, hrequests.files.store]
  · exact hbefore.failed hfails

theorem Unopened.not_completed
    (h : Unopened (t.pact clientHost serverHost htold) serverHost x) :
    ¬ x.Completed t.errand.sender := by
  rintro ⟨tally, hcompleted⟩
  cases herrand : t.errand with
  | fetch target =>
    rw [herrand] at hcompleted
    exact nomatch h.server.symm.trans hcompleted
  | deliver origin node =>
    rw [herrand] at hcompleted
    have hclient : x.client = .ended (.completed tally) := Option.some.inj hcompleted
    rcases h.client with ⟨ending, hended, hfailed⟩ | ⟨s, hs, -⟩
    · exact hfailed tally (Run.ended.inj (hended.symm.trans hclient))
    · exact nomatch hs.symm.trans hclient

/-- A sender that has come through has been told that everything was taken. -/
theorem Opened.ends (h : Opened c receiver x) (hcompleted : x.Completed receiver.other) :
    ∃ tally, x.run receiver = some (.ended (.closing c.fault tally)) := by
  obtain ⟨s, r, hs, hr, hstage⟩ := h
  obtain ⟨tally, hcompleted⟩ := hcompleted
  obtain rfl := Option.some.inj (hs.symm.trans hcompleted)
  cases hstage with
  | lost hsender hfailed => exact absurd (Run.ended.inj hsender).symm (hfailed tally)
  | closed _ hreceiver => exact ⟨_, hr.trans (congrArg some hreceiver)⟩
  | asking hsender | coming hsender | confirmed hsender => exact nomatch hsender

/-- **What the success of a sender says of the receiver.**  Let a network lose datagrams but neither
repeat nor reorder them, let either side lose patience, and let the files of either side fail in
whatever way and at whatever block.  When the side that reads the bytes has come through, the side
that writes them has ended too: it has come through as well, unless closing its target comes to a
fault, and then it has failed with that one. -/
theorem ends_of_completed
    (htold : ∀ n, t.service.told ((t.source? serverHost.store).bind Prod.snd) = some n →
      n < Numeral.word64)
    (hreaches : Relation.ReflTransGen t.InOrder (t.initial clientHost serverHost) x)
    (hcompleted : x.Completed t.errand.sender) :
    ∃ tally, x.run t.errand.receiver =
      some (.ended (.closing (t.closeFault clientHost serverHost) tally)) := by
  have hstands : Unopened (t.pact clientHost serverHost htold) serverHost x ∨
      Opened (t.pact clientHost serverHost htold) t.errand.receiver x := by
    clear hcompleted
    induction hreaches with
    | refl => exact .inl unopened_initial
    | tail _ hstep ih => exact ih.elim (·.step hstep) fun hopened => .inr (hopened.step hstep)
  rcases hstands with hunopened | hopened
  · exact absurd hcompleted hunopened.not_completed
  · exact hopened.ends (t.errand.sender_eq ▸ hcompleted)

theorem ends_of_completed_threeBytes :
    ∃ x, Relation.ReflTransGen threeBytes.InOrder (threeBytes.initial {} { ports := [69] }) x ∧
      x.Completed .client ∧ ∃ tally, x.server = some (.ended (.completed tally)) := by
  -- The request, the acknowledgement of block 0, block 1 and its acknowledgement arrive.
  have hreaches : Relation.ReflTransGen threeBytes.InOrder
      (threeBytes.initial {} { ports := [69] }) _ :=
    threeBytes.inOrder_of_orderable
      ((((threeBytes.orderable_proceed _).trans (threeBytes.orderable_proceed _)).trans
        (threeBytes.orderable_proceed _)).trans (threeBytes.orderable_proceed _))
  have htold : ∀ n, threeBytes.service.told ((threeBytes.source? {}).bind Prod.snd) = some n →
      n < Numeral.word64 := fun n (hn : none = some n) => nomatch hn
  exact ⟨_, hreaches, ⟨_, rfl⟩, ends_of_completed htold hreaches ⟨_, rfl⟩⟩

/-- A server whose disk is full when the file is flushed. -/
def unflushedHost : Host where
  ports := [69]
  store := { nodes := [("root/file", { flushFault := some ⟨.storageFull, "no space"⟩ })] }

/-- The client has been told that everything was taken before the server closes its file. -/
theorem completed_unflushed_threeBytes :
    let x := threeBytes.proceed (threeBytes.proceed (threeBytes.proceed (threeBytes.proceed
      (threeBytes.initial {} unflushedHost))))
    threeBytes.Orderable (threeBytes.initial {} unflushedHost) x ∧
      x.Completed threeBytes.errand.sender ∧ ¬ x.Completed threeBytes.errand.receiver ∧
      ∃ tally, x.run threeBytes.errand.receiver =
        some (.ended (.failed (.io ⟨.storageFull, "no space"⟩) tally)) := by
  intro x
  obtain ⟨tally, hfailed⟩ : ∃ tally, x.run threeBytes.errand.receiver =
      some (.ended (.failed (.io ⟨.storageFull, "no space"⟩) tally)) := ⟨_, rfl⟩
  refine ⟨?_, ⟨_, rfl⟩, ?_, tally, hfailed⟩
  · exact (((threeBytes.orderable_proceed _).trans (threeBytes.orderable_proceed _)).trans
      (threeBytes.orderable_proceed _)).trans (threeBytes.orderable_proceed _)
  · rintro ⟨tally', hcompleted⟩
    exact nomatch hfailed.symm.trans hcompleted

end Setting

end TrivialFtp
