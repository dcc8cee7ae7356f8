import TrivialFtp.Proofs.Course

/-!
# Proofs: a transfer that nothing disturbs is completed

The opening of an orderly transfer, with and without options granted, and with it the whole.

- `Setting.Sound.fetch_plain`, `Setting.Sound.fetch_granted`, `Setting.Sound.deliver`: how it comes
  to block 1.
- `Setting.Sound.completes`: both sides come through, and the content is delivered once.
-/

namespace TrivialFtp

theorem Served.of_find? {service : Service} {filename : String} {scene : Scene} {node : Node}
    {size : Option Nat} (h : service.find? scene.host.store filename = some (node, size)) :
    ∃ scene', Served service filename scene node size scene' := by
  have hresolved : NoFile scene.host.store (Path.join service.root filename) →
      Service.find?.resolved service filename = some (node, size) →
      ∃ scene', Served service filename scene node size scene' := by
    intro hmissing h
    unfold Service.find?.resolved at h
    split at h
    · next found hfound =>
      obtain ⟨rfl, rfl⟩ := Prod.mk.inj (Option.some.inj h)
      obtain ⟨resolver, hresolver, hcontent⟩ := Option.bind_eq_some_iff.1 hfound
      exact ⟨_, .resolved hmissing hresolver hcontent⟩
    · exact nomatch h
  unfold Service.find? at h
  split at h
  · next found hlook =>
    split at h
    · next hfile =>
      split at h
      · next opened hopen =>
        obtain ⟨rfl, rfl⟩ := Prod.mk.inj (Option.some.inj h)
        exact ⟨_, .file hopen (Store.openNode_ok hlook hopen ▸ hfile)⟩
      · exact nomatch h
    · next hfile => exact hresolved (.inl ⟨found, hlook, Bool.eq_false_iff.2 hfile⟩) h
  · next f hlook =>
    split at h
    · next hkind => exact hresolved (.inr ⟨f, hlook, hkind⟩) h
    · exact nomatch h

namespace Setting

variable {t : Setting} {clientHost serverHost : Host} {node : Node}

/-- Nothing keeps a transfer from being completed. -/
structure Sound (t : Setting) (clientHost serverHost : Host) (node : Node) : Prop
    extends t.Carries clientHost serverHost node where
  /-- The server serves the name. -/
  plain : requestViolation? t.filename Mode.octet.name = none
  /-- The request can be read. -/
  clean : ∀ s ∈ t.request.texts, '\x00' ∉ s.toList
  short : t.request.encode.length ≤ Listening.longestRequest
  /-- The size of the content is a word, as that of any file. -/
  size : node.content.length < Numeral.word64
  /-- No read fails. -/
  unfailing : node.readFault = none ∧ node.readCrash = none
  /-- What was written can be closed. -/
  closes : (Stream.writing t.target).closeFault
    (match t.errand.receiver with
    | .client => clientHost
    | .server => serverHost) = none
  /-- The server can make the file. -/
  creates : t.errand.receiver = .server →
    ∃ store, serverHost.store.create (Path.join t.service.root t.filename) = .ok store
  /-- The client finds the server, and both get a port for the transfer. -/
  connects : ∃ port, (t.client.connect clientHost).1 = .ok (⟨t.serverIp, t.client.port, 0⟩, port)
  binds : ∃ port, (serverHost.bindFor t.clientIp t.timing).1 = .ok port
  /-- The server is there. -/
  listens : t.client.port ∈ serverHost.ports
  clientSteady : clientHost.Steady
  serverSteady : serverHost.Steady

/-- A client has asked, and nothing else has happened. -/
structure Asked (t : Setting) (clientHost serverHost : Host) (x : Exchange) (c : Session) :
    Prop where
  client : x.client = .waiting c
  phase : c.phase = .requested
  role : c.role = t.errand.role
  stream : c.stream = t.errand.stream
  terms : c.terms = {}
  requested : c.requested = t.options
  remote : c.remote = ⟨t.serverIp, t.client.port, 0⟩
  tid : c.tid = none
  clean : c.tally.Clean 0
  files : clientHost.SameFiles x.clientHost
  steady : x.clientHost.Steady
  server : x.server = none
  serverHost : x.serverHost = serverHost
  flight : x.flight = [⟨.client, c.letter t.request⟩]
  sent : x.sent.filterMap Parcel.block? = []

theorem launch_of_connect {remote : Endpoint} {port : UInt16} {host : Host}
    (h : t.client.connect clientHost = (.ok (remote, port), host)) :
    t.launch clientHost = Run.start
      (.client t.errand.role port remote t.errand.stream t.options t.client.timing t.client.watched
        (host.clock + 1))
      (.request t.request) { host with clock := host.clock + 1 } := by
  unfold launch Client.transfer
  rw [h]
  rfl

theorem Sound.asked (h : t.Sound clientHost serverHost node) :
    ∃ c, t.Asked clientHost serverHost (t.initial clientHost serverHost) c := by
  obtain ⟨port, hport⟩ := h.connects
  have hsame := t.client.connect_files clientHost
  have hsteady := t.client.connect_sendFault clientHost
  cases hconnect : t.client.connect clientHost with
  | mk connected host =>
    rw [hconnect] at hport hsame hsteady
    obtain rfl : connected = .ok (⟨t.serverIp, t.client.port, 0⟩, port) := hport
    have hsteady : host.Steady := fun n => (congrFun hsteady n).trans (h.clientSteady n)
    have hreads : Packet.decode t.request.encode = .ok t.request := by
      have hread := decode_request h.clean h.short
      rwa [List.take_of_length_le h.short] at hread
    unfold initial
    rw [launch_of_connect hconnect, Run.start_asked]
    · refine ⟨_, ⟨rfl, rfl, rfl, rfl, rfl, rfl, rfl, rfl, ⟨rfl, rfl, rfl⟩,
        ⟨hsame.store, hsame.output⟩, hsteady, rfl, rfl, rfl, ?_⟩⟩
      exact Parcel.blocks_letter [] hreads
    · exact Host.Steady.canSend hsteady (Nat.le_trans h.short (by decide))

theorem answer_of_bind {client : Endpoint} {packet : Packet} {port : UInt16} {host : Host}
    (h : serverHost.bindFor client.ip t.timing = (.ok port, host)) :
    t.answer packet client serverHost = Run.start
      (.server t.service port client t.timing (host.clock + 1)) (.answer packet client)
      { host with clock := host.clock + 1 } := by
  unfold answer
  rw [h]
  rfl

/-- The session that a server begins for the request of a client. -/
structure Fresh (t : Setting) (serverHost : Host) (c s : Session) (host : Host) : Prop where
  role : s.role = .serve t.service
  faces : t.Faces .server s c
  clean : s.tally.Clean 0
  files : serverHost.SameFiles host
  steady : host.Steady

/-- The session takes up the request and answers. -/
structure Opens (t : Setting) (c s : Session) (host : Host) (p : Packet) (phase : Phase)
    (scene : Scene) : Prop where
  turn : Turn (t.origin .client c) ⟨s, host, []⟩ .idle t.request phase scene
  ends : s.SameEnds scene.session
  sent : World.sent scene.deeds = [s.letter p]

/-- The server has answered the request of a client. -/
structure Answered (t : Setting) (x y : Exchange) (c s : Session) (p : Packet) : Prop where
  only : t.Only x y
  client : y.run .client = some (.waiting c)
  clientHost : y.host .client = x.clientHost
  server : y.run .server = some (.waiting s)
  faces : t.Faces .server s c
  flight : y.flight = [⟨.server, s.letter p⟩]
  sent : y.sent = x.sent ++ [⟨.server, s.letter p⟩]

variable {x : Exchange} {c : Session}

/-- The request of a client opens a session. -/
theorem Sound.answered (h : t.Sound clientHost serverHost node)
    (hasked : t.Asked clientHost serverHost x c) :
    ∃ s host, t.Fresh serverHost c s host ∧ ∀ {p phase scene}, phase.isTerminal = false →
      t.Opens c s host p phase scene →
        ∃ y, t.Answered x y c { scene.session with phase, retries := 0 } p ∧
          y.serverHost = scene.host.wait scene.session.timing.timeout := by
  obtain ⟨port, hport⟩ := h.binds
  have hsame := serverHost.bindFor_files t.clientIp t.timing
  have hsteady := serverHost.bindFor_sendFault t.clientIp t.timing
  have hfree := Host.port_of_bindFor hport
  cases hbind : serverHost.bindFor t.clientIp t.timing with
  | mk bound host =>
    rw [hbind] at hport hsame hsteady
    obtain rfl : bound = .ok port := hport
    have hsteady : host.Steady := fun n => (congrFun hsteady n).trans (h.serverSteady n)
    have hfresh : t.Fresh serverHost c
        (.server t.service port (t.origin .client c) t.timing (host.clock + 1))
        { host with clock := host.clock + 1 } := by
      refine ⟨rfl, ⟨rfl, rfl, fun _ he => ?_⟩, ⟨rfl, rfl, rfl⟩, ⟨hsame.store, hsame.output⟩,
        hsteady⟩
      -- The port was free, and there is someone who listens at the other.
      have he : port = t.client.port := he
      exact hfree (he ▸ h.listens)
    refine ⟨_, _, hfresh, fun {p phase scene} hphase hopens => ?_⟩
    have htarget : (c.letter t.request).target.port = t.client.port := by
      change c.tid.getD c.remote.port = t.client.port
      rw [hasked.tid, hasked.remote]
      rfl
    have hread : Packet.decode ((c.letter t.request).bytes.take Listening.longestRequest) =
        .ok (.request t.errand.direction t.filename Mode.octet.name t.options) :=
      decode_request h.clean h.short
    have harrive : t.arrive { x with flight := [] } ⟨.client, c.letter t.request⟩ =
        { x with flight := [] }.serverTurn
          (t.answer t.request (t.origin .client c) serverHost) := by
      unfold arrive
      simp only [if_pos htarget, hasked.server, hread, hasked.serverHost]
      rfl
    have honly := t.only_arrive hasked.flight
    rw [harrive, answer_of_bind hbind, Run.start_answered (by exact hopens.turn),
      Run.rest_waiting hphase] at honly
    have hletter := hopens.ends.sent_entered phase hopens.sent
    refine ⟨_, ⟨honly, congrArg some hasked.client, rfl, rfl, ?_, ?_, ?_⟩, rfl⟩
    · exact hfresh.faces.congr hopens.ends.remote hopens.ends.tid hopens.ends.port rfl
    · exact congrArg (List.map (Parcel.mk .server)) hletter
    · exact congrArg (fun letters => x.sent ++ letters.map (Parcel.mk .server)) hletter

/-- What is to be delivered. -/
def Sound.delivery (h : t.Sound clientHost serverHost node) : Delivery :=
  h.toCarries.delivery h.size

theorem Sound.asked_eq (h : t.Sound clientHost serverHost node) :
    t.asked = (t.filename, t.options) :=
  asked_of_clean h.clean h.short

theorem Sound.offer_eq (h : t.Sound clientHost serverHost node) {size : Option Nat}
    (hsource : t.source? serverHost.store = some (node, size)) :
    Terms.offer t.options (t.service.told size) = h.delivery.offer := by
  exact h.toCarries.offer_eq hsource h.asked_eq

/-! ### What the server does with the request -/

theorem request_of_fetch {target : Target} (herrand : t.errand = .fetch target) :
    t.request = .request .read t.filename Mode.octet.name t.options := by
  rw [request, herrand]
  rfl

theorem request_of_deliver {origin : Origin} (herrand : t.errand = .deliver origin node) :
    t.request = .request .write t.filename Mode.octet.name t.options := by
  rw [request, herrand]
  rfl

variable {s : Session} {host : Host}

theorem Fresh.admits (hfresh : t.Fresh serverHost c s host)
    (h : t.Sound clientHost serverHost node) :
    Admits s t.filename Mode.octet.name t.service :=
  ⟨h.plain, congrArg Role.service? hfresh.role⟩

/-- The session has known the port of its peer from the start. -/
theorem Fresh.ends (hfresh : t.Fresh serverHost c s host) : s.SameEnds (s.pin c.port) where
  port := rfl
  remote := rfl
  tid := by
    rw [Session.pin, hfresh.faces.tid]
    rfl

/-- A reader is served the content. -/
theorem Fresh.serves (hfresh : t.Fresh serverHost c s host) (h : t.Sound clientHost serverHost node)
    {target : Target} (herrand : t.errand = .fetch target) :
    ∃ size deeds, World.sent deeds = [] ∧
      Terms.offer t.options (t.service.told size) = h.delivery.offer ∧
      Served t.service t.filename ⟨s.pin c.port, host, []⟩ node size
        ⟨s.pin c.port, host, deeds⟩ := by
  obtain ⟨⟨node', size⟩, hsource, rfl⟩ := Option.map_eq_some_iff.1 h.source
  have hoffer := h.offer_eq hsource
  simp only [source?, herrand, h.asked_eq] at hsource
  rw [← hfresh.files.store] at hsource
  obtain ⟨scene, hserved⟩ := @Served.of_find? _ _ ⟨s.pin c.port, host, []⟩ _ _ hsource
  obtain ⟨deeds, rfl, hsilent⟩ := Act.served_host hserved
  exact ⟨size, deeds, hsilent, hoffer, hserved⟩

/-- A sender has the whole content before it. -/
theorem Sound.given (h : t.Sound clientHost serverHost node) {origin : Origin}
    (hstream : s.stream = .reading origin node) (hterms : s.terms = h.delivery.offer.terms)
    (hclean : s.tally.Clean 0) : h.delivery.Given 0 s := by
  refine ⟨hstream ▸ .reading ?_ h.readable, hstream ▸ .reading h.unfailing.1 h.unfailing.2,
    hterms, ?_⟩
  · rw [Nat.zero_mul]
    rfl
  · rwa [Delivery.progress, Nat.zero_mul]

/-- A receiver has nothing yet. -/
theorem Sound.wants (h : t.Sound clientHost serverHost node) {target : Target}
    (hstream : s.stream = .writing target) (hterms : s.terms = h.delivery.offer.terms)
    (hnext : s.nextBlock = 1) (hclean : s.tally.Clean 0) : h.delivery.Wants target 0 s :=
  ⟨hstream, hterms, hnext, by rwa [Delivery.progress, Nat.zero_mul]⟩

/-- A server that grants nothing sends a reader block 1. -/
theorem Fresh.opens_plain (hfresh : t.Fresh serverHost c s host)
    (h : t.Sound clientHost serverHost node) {target : Target} (herrand : t.errand = .fetch target)
    (hempty : h.delivery.offer.options.isEmpty = true) :
    ∃ scene, t.Opens c s host (.data 1 (h.delivery.block 0)) .awaitingAck scene ∧
      h.delivery.Gave 1 scene.session ∧ scene.host.Steady := by
  obtain ⟨size, deeds, hsilent, hoffer, hserved⟩ := hfresh.serves h herrand
  obtain ⟨scene, hgive, hgave, hends, hsteady, hsent⟩ := @Delivery.Given.give h.delivery 0
    ⟨{ s.settled c.port h.delivery.offer.terms with stream := .ofNode node }, host, deeds⟩
    (h.given rfl rfl hfresh.clean) Delivery.count_pos rfl hfresh.steady
  refine ⟨scene, ⟨?_, ⟨hends.port, hends.remote, hends.tid.trans hfresh.ends.tid⟩, ?_⟩, hgave,
    hsteady⟩
  · rw [request_of_fetch herrand]
    refine .served (hfresh.admits h) hserved (hoffer ▸ hempty) ?_
    rw [hoffer]
    exact hgive
  · rw [hsent, hsilent, List.nil_append]
    exact congrArg (fun letter => [letter]) (hfresh.ends.letter _)

/-- A server that grants options tells the reader of them. -/
theorem Fresh.opens_offer (hfresh : t.Fresh serverHost c s host)
    (h : t.Sound clientHost serverHost node) {target : Target} (herrand : t.errand = .fetch target)
    (hgranted : h.delivery.offer.options.isEmpty = false) :
    ∃ scene, t.Opens c s host (.optionAck h.delivery.offer.options) .offering scene ∧
      h.delivery.Gave 0 scene.session ∧ scene.host.Steady := by
  obtain ⟨size, deeds, hsilent, hoffer, hserved⟩ := hfresh.serves h herrand
  have hsend : Scene.CanSend ⟨s.pin c.port, host, deeds⟩ (.optionAck h.delivery.offer.options) :=
    Host.Steady.canSend hfresh.steady Delivery.passes_offer.short
  have hturn := @Turn.offered (t.origin .client c) ⟨s, host, []⟩ _ _ _ _ _ _ _ (hfresh.admits h)
    hserved (hoffer ▸ hgranted) (hoffer ▸ hsend)
  rw [hoffer, ← request_of_fetch herrand] at hturn
  refine ⟨_, ⟨hturn, ⟨rfl, rfl, hfresh.ends.tid⟩, ?_⟩, ?_, ?_⟩
  · refine (World.sent_append deeds _).trans ?_
    rw [hsilent, List.nil_append]
    exact congrArg (fun letter => [letter]) (hfresh.ends.letter _)
  · have hfinal := decide_eq_false (Nat.ne_of_lt h.delivery.count_pos)
    exact ⟨h.given rfl rfl hfresh.clean, rfl, hfinal.symm⟩
  · exact hfresh.steady

/-- A server makes a file for a writer, and tells of it. -/
theorem Fresh.opens_file (hfresh : t.Fresh serverHost c s host)
    (h : t.Sound clientHost serverHost node) {origin : Origin} {node' : Node}
    (herrand : t.errand = .deliver origin node') :
    ∃ scene, t.Opens c s host h.delivery.offer.reply .awaitingData scene ∧
      h.delivery.Wants t.target 0 scene.session ∧
      h.delivery.Sink t.target (t.base clientHost) 0 scene.host := by
  have hsource : t.source? serverHost.store = some (node, t.options.announced) := by
    rw [source?, herrand, h.asked_eq, h.node_eq herrand]
  have hoffer := h.offer_eq hsource
  have htarget : t.target = .file (Path.join t.service.root t.filename) := by
    rw [Setting.target, herrand, h.asked_eq]
  have hbase : t.base clientHost = [] := by rw [base, herrand]
  have hroomy := h.roomy
  have hcloses := h.closes
  rw [htarget] at hroomy hcloses
  simp only [herrand, Errand.receiver] at hroomy hcloses
  obtain ⟨store, hstore⟩ := h.creates (congrArg Errand.receiver herrand)
  rw [← hfresh.files.store] at hstore
  have hcreate : Stream.create host (Path.join t.service.root t.filename) =
      .ok (.writing (.file (Path.join t.service.root t.filename)), { host with store }) := by
    rw [Stream.create, hstore]
    rfl
  obtain ⟨hroomy, hheld⟩ := (hroomy.congr hfresh.files).create hstore
  have hsend : Scene.CanSend ⟨s.pin c.port, host, []⟩ h.delivery.offer.reply :=
    Host.Steady.canSend hfresh.steady Delivery.passes_reply.short
  have hturn := @Turn.created (t.origin .client c) ⟨s, host, []⟩ _ _ _ _ _ _ (hfresh.admits h)
    hcreate (hoffer ▸ hsend)
  rw [hoffer, ← request_of_deliver herrand] at hturn
  refine ⟨_, ⟨hturn, ⟨rfl, rfl, hfresh.ends.tid⟩, ?_⟩, ?_, ?_⟩
  · exact congrArg (fun letter => [letter]) (hfresh.ends.letter _)
  · rw [htarget]
    exact h.wants rfl rfl rfl hfresh.clean
  · rw [htarget, hbase]
    refine ⟨(Delivery.Filled.begin hroomy hheld (Nat.le_refl 1)).congr ⟨rfl, rfl⟩, ?_,
      hfresh.steady⟩
    refine (Target.closeFault_create hstore).trans ?_
    rw [← hcloses]
    unfold Stream.closeFault
    rw [hfresh.files.store]

/-! ### What the client does with the answer -/

variable {y : Exchange} {p : Packet}

theorem Sound.agree_offer (h : t.Sound clientHost serverHost node)
    (hgranted : h.delivery.offer.options.isEmpty = false) :
    Terms.agree t.options h.delivery.offer.options = .ok h.delivery.offer.terms := by
  have hasked : h.delivery.asked = t.options := congrArg Prod.snd h.asked_eq
  rw [← hasked]
  exact Terms.agree_offer_of_requested h.delivery.told_lt hgranted

/-- What a reader has is as it was. -/
theorem Asked.sink (hasked : t.Asked clientHost serverHost x c)
    (h : t.Sound clientHost serverHost node) {target : Target}
    (herrand : t.errand = .fetch target) :
    h.delivery.Sink t.target (t.base clientHost) 0 x.clientHost := by
  have hroomy := h.roomy
  have hcloses := h.closes
  simp only [herrand, Errand.receiver] at hroomy hcloses
  have hheld : t.target.held clientHost = t.base clientHost := by
    rw [Setting.target, base, herrand]
  refine ⟨(Delivery.Filled.begin hroomy hheld (Nat.le_refl 1)).congr hasked.files, ?_,
    hasked.steady⟩
  rw [← hcloses]
  unfold Stream.closeFault
  rw [hasked.files.store]

theorem Asked.isForeign (hasked : t.Asked clientHost serverHost x c) :
    c.isForeign (t.origin .server s) = false := by
  simp [Session.isForeign, origin, ip, hasked.remote, hasked.tid]

/-- The client takes the port from which it is answered for the server's. -/
theorem Asked.faces {s' : Session} (hasked : t.Asked clientHost serverHost x c)
    (hends : (c.pin s.port).SameEnds s') : t.Faces .client s' s where
  remote := by
    rw [hends.remote, Session.pin, hasked.remote]
    rfl
  tid := by
    rw [hends.tid, Session.pin, hasked.tid]
    rfl
  own := nofun

/-- All who wait keep the terms of the server, but for the client that has asked. -/
theorem Answered.agreed {d : Delivery} (hanswered : t.Answered x y c s p)
    (hasked : t.Asked clientHost serverHost x c) (hterms : s.terms = d.offer.terms) :
    Agreed d y := by
  refine agreed_of .client ?_ ?_
  · intro s' hs
    obtain rfl := Run.waiting.inj (Option.some.inj (hanswered.client.symm.trans hs))
    exact .inl hasked.phase
  · intro s' hs
    obtain rfl := Run.waiting.inj (Option.some.inj (hanswered.server.symm.trans hs))
    exact .inr hterms

theorem Asked.agreed {d : Delivery} (hasked : t.Asked clientHost serverHost x c) : Agreed d x := by
  refine agreed_of .client ?_ ?_
  · intro s' hs
    obtain rfl := Run.waiting.inj (hasked.client.symm.trans (Option.some.inj hs))
    exact .inl hasked.phase
  · intro s' hs
    exact nomatch hasked.server.symm.trans hs

/-- A reader that is granted nothing is sent block 1. -/
theorem Sound.fetch_plain (h : t.Sound clientHost serverHost node) {target : Target}
    (herrand : t.errand = .fetch target) (hempty : h.delivery.offer.options.isEmpty = true)
    (hasked : t.Asked clientHost serverHost x c) :
    ∃ y r s, t.Only x y ∧ t.Coming h.delivery t.target (t.base clientHost) .client 0 y c r s := by
  obtain ⟨s, host, hfresh, hanswers⟩ := h.answered hasked
  obtain ⟨scene, hopens, hgave, hsteady⟩ := hfresh.opens_plain h herrand hempty
  obtain ⟨y, hanswered, hhost⟩ := hanswers rfl hopens
  have htarget : t.target = target := by rw [Setting.target, herrand]
  refine ⟨y, _, _, hanswered.only, {
    receiver := hanswered.client
    ready := .asking rfl hasked.phase ?_ ?_ hasked.tid
    wants := ?_
    sink := ?_
    sender := hanswered.server
    phase := rfl
    faces := hanswered.faces
    gave := ⟨hgave.toGiven.congr rfl rfl rfl, hgave.next, hgave.final⟩
    steady := ?_
    flight := hanswered.flight
    sent := ?_
    lt := Delivery.count_pos }⟩
  · rw [hasked.role, herrand]
    rfl
  · rw [hasked.remote]
    rfl
  · refine h.wants ?_ (Terms.offer_terms_of_isEmpty hempty).symm rfl hasked.clean
    refine hasked.stream.trans ?_
    rw [herrand, htarget]
    rfl
  · rw [hanswered.clientHost]
    exact hasked.sink h herrand
  · change y.serverHost.Steady
    rw [hhost]
    exact hsteady
  · rw [hanswered.sent, Parcel.blocks_letter _ (Delivery.passes_block 1 0).reads, hasked.sent]
    rfl

/-- A reader accepts what it is granted. -/
theorem Asked.accepts (hasked : t.Asked clientHost serverHost x c)
    (h : t.Sound clientHost serverHost node) {target : Target} (herrand : t.errand = .fetch target)
    (hgranted : h.delivery.offer.options.isEmpty = false) {base : Bytes} (source : Endpoint)
    (hsink : h.delivery.Sink t.target base 0 host) :
    ∃ scene, Turn source ((Scene.mk c host []).heard.showing
          (.optionAck h.delivery.offer.options)) c.phase (.optionAck h.delivery.offer.options)
        .awaitingData scene ∧
      h.delivery.Wants t.target 0 scene.session ∧ (c.pin source.port).SameEnds scene.session ∧
      h.delivery.Sink t.target base 0 scene.host ∧
      World.sent scene.deeds = [(c.pin source.port).letter (.ack 0)] := by
  have hrole : c.role = .download := by
    rw [hasked.role, herrand]
    rfl
  have hstream : c.stream = .writing t.target := by
    rw [hasked.stream, Setting.target, herrand]
    rfl
  have hagree : Terms.agree c.requested h.delivery.offer.options = .ok h.delivery.offer.terms := by
    rw [hasked.requested]
    exact h.agree_offer hgranted
  obtain ⟨deeds, hsilent, hscene⟩ := Scene.heard_showing c host
    (.optionAck h.delivery.offer.options)
  rw [hscene]
  refine ⟨_, .of_phase hasked.phase (.grantedRead hrole hagree
      (Host.Steady.canSend hsink.steady (Packet.passes_ack 0).short)),
    h.wants hstream rfl rfl hasked.clean, ⟨rfl, rfl, rfl⟩, hsink.congr ⟨rfl, rfl⟩ rfl, ?_⟩
  refine (World.sent_append deeds _).trans ?_
  rw [hsilent]
  rfl

/-- A reader that is granted options is ready for block 1. -/
theorem Sound.fetch_granted (h : t.Sound clientHost serverHost node) {target : Target}
    (herrand : t.errand = .fetch target) (hgranted : h.delivery.offer.options.isEmpty = false)
    (hasked : t.Asked clientHost serverHost x c) :
    ∃ y z r s, t.Only x y ∧ Agreed h.delivery y ∧ t.Only y z ∧
      t.Confirmed h.delivery t.target (t.base clientHost) .client 0 z r s := by
  obtain ⟨s, host, hfresh, hanswers⟩ := h.answered hasked
  obtain ⟨scene, hopens, hgave, hsteady⟩ := hfresh.opens_offer h herrand hgranted
  obtain ⟨y, hanswered, hhost⟩ := hanswers rfl hopens
  have hsink := hasked.sink h herrand
  rw [← hanswered.clientHost] at hsink
  obtain ⟨scene', hturn, hwants, hends, hsink, hsent⟩ := hasked.accepts h herrand hgranted
    (t.origin .server { scene.session with phase := .offering, retries := 0 }) hsink
  have honly := only_turn hanswered.flight hanswered.client nofun hanswered.faces.tid
    hasked.isForeign Delivery.passes_offer hturn
  rw [Run.rest_waiting rfl] at honly
  have hletter := hends.sent_entered .awaitingData hsent
  refine ⟨y, _, { scene'.session with phase := .awaitingData, retries := 0 },
    { scene.session with phase := .offering, retries := 0 }, hanswered.only,
    hanswered.agreed hasked hgave.terms, honly, {
    receiver := ?_
    wants := hwants.congr rfl rfl rfl rfl
    facing := hasked.faces ⟨hends.port, hends.remote, hends.tid⟩
    sink := hsink.congr ⟨rfl, rfl⟩ rfl
    sender := hanswered.server
    phase := .inr rfl
    faces := hanswered.faces.congr rfl rfl rfl hends.port
    gave := ⟨hgave.toGiven.congr rfl rfl rfl, hgave.next, hgave.final⟩
    steady := ?_
    flight := congrArg (List.map (Parcel.mk .client)) hletter
    sent := ?_
    le := Nat.zero_le _ }⟩
  · rw [if_neg (Nat.ne_of_lt Delivery.count_pos)]
    exact ⟨rfl, rfl⟩
  · change y.serverHost.Steady
    rw [hhost]
    exact hsteady
  · rw [Exchange.sent_turn, hletter]
    change (y.sent ++ [_]).filterMap _ = _
    rw [Parcel.blocks_letter _ (Packet.passes_ack 0).reads, hanswered.sent,
      Parcel.blocks_letter _ Delivery.passes_offer.reads, hasked.sent]
    rfl

/-- A writer sends block 1, whether it is granted options or not. -/
theorem Asked.gives (hasked : t.Asked clientHost serverHost x c)
    (h : t.Sound clientHost serverHost node) {origin : Origin}
    (herrand : t.errand = .deliver origin node) (source : Endpoint) (hsteady : host.Steady) :
    ∃ scene, Turn source ((Scene.mk c host []).heard.showing h.delivery.offer.reply) c.phase
        h.delivery.offer.reply .awaitingAck scene ∧
      h.delivery.Gave 1 scene.session ∧ (c.pin source.port).SameEnds scene.session ∧
      scene.host.Steady ∧
      World.sent scene.deeds = [(c.pin source.port).letter (.data 1 (h.delivery.block 0))] := by
  have hrole : c.role = .upload := by
    rw [hasked.role, herrand]
    rfl
  have hstream : c.stream = .reading origin node := by
    rw [hasked.stream, herrand]
    rfl
  obtain ⟨deeds, hsilent, hscene⟩ := Scene.heard_showing c host h.delivery.offer.reply
  rw [hscene]
  obtain ⟨scene, hgive, hgave, hends, hsteady, hsent⟩ := @Delivery.Given.give h.delivery 0
    ⟨{ c.settled source.port h.delivery.offer.terms with heardAt := host.clock + 1 },
      { host with clock := host.clock + 1 }, deeds⟩
    (h.given hstream rfl hasked.clean) Delivery.count_pos rfl hsteady
  refine ⟨scene, ?_, hgave, ⟨hends.port, hends.remote, hends.tid⟩, hsteady, ?_⟩
  · refine .of_phase hasked.phase ?_
    unfold Terms.Offer.reply
    split
    · next hempty =>
      -- A client that is granted nothing settles for the terms that the server keeps.
      rw [Delivery.offer, Terms.offer_terms_of_isEmpty hempty] at hgive
      exact .firstAck hrole hgive
    · next hgranted =>
      have hagree := h.agree_offer (Bool.eq_false_iff.2 hgranted)
      rw [← hasked.requested] at hagree
      exact .grantedWrite hrole hagree hgive
  · rw [hsent, hsilent]
    rfl

/-- A writer is answered, and sends block 1. -/
theorem Sound.deliver (h : t.Sound clientHost serverHost node) {origin : Origin} {node' : Node}
    (herrand : t.errand = .deliver origin node') (hasked : t.Asked clientHost serverHost x c) :
    ∃ y z r s, t.Only x y ∧ Agreed h.delivery y ∧ t.Only y z ∧
      t.Coming h.delivery t.target (t.base clientHost) .server 0 z r r s := by
  obtain ⟨s, host, hfresh, hanswers⟩ := h.answered hasked
  obtain ⟨scene, hopens, hwants, hsink⟩ := hfresh.opens_file h herrand
  obtain ⟨y, hanswered, hhost⟩ := hanswers rfl hopens
  obtain ⟨scene', hturn, hgave, hends, hsteady, hsent⟩ := @Asked.gives _ _ _ _ _ _ (y.host .client)
    hasked h _ (h.node_eq herrand ▸ herrand)
    (t.origin .server { scene.session with phase := .awaitingData, retries := 0 })
    (hanswered.clientHost ▸ hasked.steady)
  have honly := only_turn hanswered.flight hanswered.client nofun hanswered.faces.tid
    hasked.isForeign Delivery.passes_reply hturn
  rw [Run.rest_waiting rfl] at honly
  have hletter := hends.sent_entered .awaitingAck hsent
  refine ⟨y, _, { scene.session with phase := .awaitingData, retries := 0 },
    { scene'.session with phase := .awaitingAck, retries := 0 }, hanswered.only,
    hanswered.agreed hasked hwants.terms, honly, {
    receiver := hanswered.server
    ready := .waiting rfl (hanswered.faces.congr rfl rfl rfl hends.port)
    wants := hwants.congr rfl rfl rfl rfl
    sink := ?_
    sender := rfl
    phase := rfl
    faces := hasked.faces ⟨hends.port, hends.remote, hends.tid⟩
    gave := ⟨hgave.toGiven.congr rfl rfl rfl, hgave.next, hgave.final⟩
    steady := hsteady
    flight := congrArg (List.map (Parcel.mk .client)) hletter
    sent := ?_
    lt := Delivery.count_pos }⟩
  · change h.delivery.Sink t.target (t.base clientHost) 0 y.serverHost
    rw [hhost]
    exact hsink.congr ⟨rfl, rfl⟩ rfl
  · rw [Exchange.sent_turn, hletter]
    change (y.sent ++ [_]).filterMap _ = _
    rw [Parcel.blocks_letter _ (Delivery.passes_block 1 0).reads, hanswered.sent,
      Parcel.blocks_letter _ Delivery.passes_reply.reads, hasked.sent, Terms.Offer.block?_reply]
    rfl

/-! ### The whole -/

theorem Sound.settles (h : t.Sound clientHost serverHost node) :
    ∃ final, t.Settles (Agreed h.delivery) (t.initial clientHost serverHost) final ∧
      Finished h.delivery t.target (t.base clientHost) t.errand.receiver final := by
  obtain ⟨c, hasked⟩ := h.asked
  cases herrand : t.errand with
  | fetch target =>
    by_cases hempty : h.delivery.offer.options.isEmpty = true
    · obtain ⟨y, r, s, honly, hcoming⟩ := h.fetch_plain herrand hempty hasked
      obtain ⟨final, hsettles, hfinished⟩ := hcoming.settles
      exact ⟨final, honly.settles hasked.agreed hsettles, hfinished⟩
    · obtain ⟨y, z, r, s, honly, hagreed, honly', hconfirmed⟩ :=
        h.fetch_granted herrand (Bool.eq_false_iff.2 hempty) hasked
      obtain ⟨final, hsettles, hfinished⟩ :=
        Confirmed.settles _ (Nat.zero_add _) hconfirmed
      exact ⟨final, honly.settles hasked.agreed (honly'.settles hagreed hsettles), hfinished⟩
  | deliver origin node' =>
    obtain ⟨y, z, r, s, honly, hagreed, honly', hcoming⟩ := h.deliver herrand hasked
    obtain ⟨final, hsettles, hfinished⟩ := hcoming.settles
    exact ⟨final, honly.settles hasked.agreed (honly'.settles hagreed hsettles), hfinished⟩

/-- A reader that asks for the size of a file learns it. -/
theorem Sound.learns (h : t.Sound clientHost serverHost node) {target : Target}
    (herrand : t.errand = .fetch target) (hreport : t.service.reportSize = true)
    (hrequested : t.options.contains Terms.transferSizeName = true) {file : Node}
    (hlook : serverHost.store.look (Path.join t.service.root t.filename) = .ok file)
    (hfile : file.isFile = true) :
    ∃ y s, t.Orderable (t.initial clientHost serverHost) y ∧ y.client = .waiting s ∧
      s.phase ≠ .requested ∧ s.terms.transferSize = some node.content.length := by
  obtain ⟨c, hasked⟩ := h.asked
  obtain ⟨⟨node', size⟩, hsource, rfl⟩ := Option.map_eq_some_iff.1 h.source
  have hoffer := h.offer_eq hsource
  have hsize : size = some node'.content.length := by
    simp only [source?, herrand, h.asked_eq] at hsource
    unfold Service.find? at hsource
    simp only [hlook, hfile, if_true] at hsource
    split at hsource
    · obtain ⟨rfl, rfl⟩ := Prod.mk.inj (Option.some.inj hsource)
      rfl
    · cases hsource
  have htold : h.delivery.offer.terms.transferSize = some node'.content.length := by
    rw [← hoffer, hsize, Service.told, if_pos hreport]
    exact Terms.transferSize_offer h.size hrequested
  -- An offer that tells a size is not empty, so that the client has to take note of it.
  have hgranted : h.delivery.offer.options.isEmpty = false := by
    rw [← Bool.not_eq_true]
    intro hempty
    have hterms := Terms.offer_terms_of_isEmpty hempty
    cases htold.symm.trans (congrArg Terms.transferSize hterms)
  obtain ⟨y, z, r, s, honly, -, honly', hconfirmed⟩ := h.fetch_granted herrand hgranted hasked
  obtain ⟨hwaiting, hphase⟩ := (if_neg (Nat.ne_of_lt Delivery.count_pos)).mp hconfirmed.receiver
  refine ⟨z, r, .tail (.single honly.step) honly'.step, Option.some.inj hwaiting, ?_, ?_⟩
  · rw [hphase]
    decide
  · rw [hconfirmed.wants.terms]
    exact htold

/-- **Completion.**  Let nothing keep a transfer from being completed.  In an orderly network
whatever happens leads to one end, however many blocks there are: both sides come through, having
moved the content and nothing twice, the blocks that were sent are all there are, each once and in
order, numbered from 1 and after 65535 from 0 again, and the receiver has written it all.  On the
way all who wait for more than a first answer keep the terms of the server, and a reader that asks a
server for the size of a file, and may be told, learns it. -/
theorem Sound.completes (h : t.Sound clientHost serverHost node) :
    ∃ final, t.Settles (fun y => ∀ party s, y.run party = some (.waiting s) →
        s.phase = .requested ∨ s.terms = (t.offer serverHost.store).terms)
        (t.initial clientHost serverHost) final ∧
      (∀ party, ∃ tally, final.run party = some (.ended (.completed tally)) ∧
        tally.bytes = node.content.length ∧ tally.duplicates = [] ∧ tally.resentBytes = 0) ∧
      t.target.held (final.host t.errand.receiver) = t.base clientHost ++ node.content ∧
      final.flight = [] ∧
      final.sent.filterMap Parcel.block? =
        (List.range (node.content.length / t.blockSize serverHost.store + 1)).map (fun i =>
          (UInt16.ofNat (i + 1), blockAt node.content (t.blockSize serverHost.store) i)) ∧
      ∀ {target file}, t.errand = .fetch target → t.service.reportSize = true →
        t.options.contains Terms.transferSizeName = true →
        serverHost.store.look (Path.join t.service.root t.filename) = .ok file →
        file.isFile = true →
          ∃ y s, t.Orderable (t.initial clientHost serverHost) y ∧ y.client = .waiting s ∧
            s.phase ≠ .requested ∧ s.terms.transferSize = some node.content.length := by
  obtain ⟨final, hsettles, hfinished⟩ := h.settles
  refine ⟨final, hsettles, fun party => ?_, hfinished.held, hfinished.flight, hfinished.sent,
    fun herrand hreport hrequested hlook hfile => h.learns herrand hreport hrequested hlook hfile⟩
  obtain ⟨tally, hended, hclean⟩ := hfinished.runs party
  exact ⟨tally, hended, hclean.bytes, hclean.duplicates, hclean.resentBytes⟩

/-- The download of nine bytes in blocks of eight. -/
def nineBytes : Setting where
  client := { server := "127.0.0.1" }
  clientIp := .v4 127 0 0 1
  serverIp := .v4 127 0 0 1
  service := { root := "root", reportSize := true }
  timing := {}
  filename := "file"
  options := .ofList [("blksize", "8"), ("tsize", "0")]
  errand := .fetch .output

/-- The server that has them. -/
def nineBytesHost : Host where
  ports := [69]
  store := { nodes := [("root/file", { content := [1, 2, 3, 4, 5, 6, 7, 8, 9] })] }

theorem completes_nineBytes :
    ∃ final, final.clientHost.output = [1, 2, 3, 4, 5, 6, 7, 8, 9] ∧
      final.sent.filterMap Parcel.block? = [(1, [1, 2, 3, 4, 5, 6, 7, 8]), (2, [9])] ∧
      nineBytes.Orderable (nineBytes.initial {} nineBytesHost) final ∧
      ∃ y s, nineBytes.Orderable (nineBytes.initial {} nineBytesHost) y ∧ y.client = .waiting s ∧
        s.terms.transferSize = some 9 := by
  have hsound : nineBytes.Sound {} nineBytesHost { content := [1, 2, 3, 4, 5, 6, 7, 8, 9] } := {
    source := rfl
    readable := nofun
    roomy := trivial
    plain := by decide
    clean := by decide
    short := by decide
    size := by decide
    unfailing := ⟨rfl, rfl⟩
    closes := rfl
    creates := nofun
    connects := ⟨40001, rfl⟩
    binds := ⟨40001, rfl⟩
    listens := by decide
    clientSteady := fun _ => rfl
    serverSteady := fun _ => rfl }
  obtain ⟨final, hsettles, -, hheld, -, hsent, hlearns⟩ := hsound.completes
  obtain ⟨y, s, hy, hclient, -, hsize⟩ := hlearns rfl rfl (by decide) rfl rfl
  exact ⟨final, hheld, hsent, (hsettles.leads _ .refl).1, y, s, hy, hclient, hsize⟩

end Setting

end TrivialFtp
