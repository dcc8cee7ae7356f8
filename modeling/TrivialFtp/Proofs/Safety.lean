import TrivialFtp.Proofs.Delivery

/-!
# Proofs: what is written is what was to be delivered

Whatever the network does, the receiver of a transfer has written some of the first blocks of the
content and nothing else, and either side that comes through can rely on all of them being there.

- `Conduct.IsKept.launch`, `Conduct.IsKept.answer`: the two sides begin as they should.
- `Setting.Carries.written`: what is written in the course of any exchange.
-/

namespace TrivialFtp

/-! ### Beginnings -/

namespace Conduct

variable {c : Conduct} {t : Setting} {host : Host} {stage : Nat}

/-- A run that has ended before it sent anything. -/
theorem IsKept.early (hc : c.IsKept) (hfiles : c.files stage host) (fault : Fault) {host' : Host}
    (hsame : host.SameFiles host') :
    ∃ stage', c.moves stage stage' ∧
      c.After stage' (.ended (Client.early fault host'.clock), host', []) :=
  ⟨stage, hc.moves_refl stage, hc.files_same hfiles hsame, (fun _ hd => nomatch hd),
    (fun _ he => nomatch he), fun _ he => nomatch he⟩

/-- A client begins as it should. -/
theorem IsKept.launch (hc : c.IsKept) (hfiles : c.files stage host)
    (hsends : c.sends stage t.request.encode)
    (hstands : ∀ {s : Session}, s.role = t.errand.role → s.phase = .requested →
      s.stream = t.errand.stream → s.lastSent = some t.request → c.stands stage s) :
    ∃ stage', c.moves stage stage' ∧ c.After stage' (t.launch host) := by
  have hsame := t.client.connect_files host
  unfold Setting.launch Client.transfer
  cases hconnect : t.client.connect host with
  | mk connected host' =>
    rw [hconnect] at hsame
    cases connected with
    | error fault => exact hc.early hfiles fault hsame
    | ok connected =>
      refine After.of_outcome hc ?_ ?_
        (Run.start_outcome _ _ _)
      · intro scene hopened
        cases hopened with
        | asked =>
          refine ⟨stage, hc.moves_refl stage, hc.files_same hfiles ⟨hsame.store, hsame.output⟩, ?_,
            fun _ => hstands rfl rfl rfl rfl, nofun⟩
          exact fun letter hletter => List.mem_singleton.1 hletter ▸ hsends
      · intro halt scene hrefused
        cases hrefused with
        | unasked hbare =>
          refine ⟨⟨stage, hc.moves_refl stage, ?_⟩, hbare.silent⟩
          obtain ⟨hstore, houtput⟩ := hbare.files
          exact hc.files_same hfiles ⟨hstore.trans hsame.store, houtput.trans hsame.output⟩

/-- A server's session begins as it should. -/
theorem IsKept.answer (hc : c.IsKept) {packet : Packet} {client : Endpoint}
    (hfiles : c.files stage host)
    (hturn : ∀ {scene scene' : Scene} {phase : Phase}, scene.session.role = .serve t.service →
      host.SameFiles scene.host → World.sent scene.deeds = [] →
      Turn client scene .idle packet phase scene' →
      ∃ stage', c.moves stage stage' ∧ c.Good stage' (scene'.enter phase))
    (hsetback : ∀ {scene scene' : Scene} {halt : Halt}, scene.session.role = .serve t.service →
      host.SameFiles scene.host → Setback scene packet halt scene' →
      ∃ stage', c.moves stage stage' ∧ c.files stage' scene'.host) :
    ∃ stage', c.moves stage stage' ∧ c.After stage' (t.answer packet client host) := by
  have hsame := host.bindFor_files client.ip t.timing
  unfold Setting.answer
  cases hbind : host.bindFor client.ip t.timing with
  | mk port host' =>
    rw [hbind] at hsame
    cases port with
    | error fault => exact hc.early hfiles fault hsame
    | ok port =>
      refine After.of_outcome hc ?_ ?_
        (Run.start_outcome _ _ _)
      · intro scene hopened
        cases hopened with
        | answered hopened =>
          exact hturn rfl ⟨hsame.store, hsame.output⟩ rfl hopened
      · intro halt scene hrefused
        cases hrefused with
        | unanswered hsetback' =>
          exact ⟨hsetback rfl ⟨hsame.store, hsame.output⟩ hsetback', hsetback'.silent⟩

end Conduct

/-- Both sides begin as they should. -/
theorem Pair.Fits.initial {pair : Pair} {t : Setting} {stage : Nat} {clientHost serverHost : Host}
    (hfits : pair.Fits t) (hclient : pair.client.files stage clientHost)
    (hserver : pair.server.files stage serverHost) (hfresh : pair.fresh stage serverHost)
    (hsends : pair.client.sends stage t.request.encode)
    (hstands : ∀ {s : Session}, s.role = t.errand.role → s.phase = .requested →
      s.stream = t.errand.stream → s.lastSent = some t.request → pair.client.stands stage s) :
    ∃ stage', pair.Holds stage' (t.initial clientHost serverHost) := by
  obtain ⟨stage', hmoves, hafter⟩ := hfits.client.launch hclient hsends hstands
  exact ⟨stage', (Pair.Holds.before hclient hserver hfresh).clientTurn hfits hmoves hafter⟩

/-! ### The two sides of a setting -/

namespace Setting

variable {t : Setting} {clientHost serverHost : Host} {node : Node}

variable {target : Target} {d : Delivery}

/-- A session serves what the server has under the name it was asked for. -/
theorem source_of_served (herrand : t.errand = .fetch target) {filename mode : String}
    {options : Options} {service : Service} {session : Session} {found : Node} {size : Option Nat}
    {scene scene₁ : Scene} (hasked : t.asked = (filename, options))
    (hrole : scene.session.role = .serve t.service) (hsame : serverHost.SameFiles scene.host)
    (hadmits : Admits scene.session filename mode service)
    (hserved : Served service filename (scene.become session) found size scene₁) :
    t.service = service ∧ t.source? serverHost.store = some (found, size) := by
  obtain rfl : t.service = service :=
    Option.some.inj ((congrArg Role.service? hrole).symm.trans hadmits.serving)
  refine ⟨rfl, ?_⟩
  rw [source?, herrand, hasked, ← hsame.store]
  exact hserved.find?

/-- A server opens its session for a reader: it offers what it grants, or sends block 1. -/
theorem Carries.opens_fetch (h : t.Carries clientHost serverHost node)
    {hsize : node.content.length < Numeral.word64}
    (herrand : t.errand = .fetch target) {direction : Direction} {filename mode : String}
    {options : Options} {source : Endpoint} {phase : Phase} {scene scene' : Scene} {stage : Nat}
    (hread : direction = t.errand.direction ∧ t.asked = (filename, options))
    (hrole : scene.session.role = .serve t.service) (hsame : serverHost.SameFiles scene.host)
    (hsent : World.sent scene.deeds = [])
    (hturn : Turn source scene .idle (.request direction filename mode options) phase scene') :
    ((h.delivery hsize).sender .server).Good stage (scene'.enter phase) := by
  obtain ⟨rfl, hasked⟩ := hread
  -- The session serves what the server has under the name it was asked for.
  have hnode : ∀ {service : Service} {found : Node} {size : Option Nat} {scene₁ : Scene},
      Admits scene.session filename mode service →
      Served service filename (scene.become (scene.session.pin source.port)) found size scene₁ →
      found = node ∧ Terms.offer options (service.told size) = (h.delivery hsize).offer := by
    intro service found size scene₁ hadmits hserved
    obtain ⟨rfl, hfind⟩ := source_of_served herrand hasked hrole hsame hadmits hserved
    have hsource := h.source
    rw [hfind] at hsource
    exact ⟨Option.some.inj hsource, h.offer_eq hfind hasked⟩
  rw [herrand] at hturn
  change Turn source scene .idle (.request .read filename mode options) phase scene' at hturn
  cases hturn with
  | served hadmits hserved hgranted hgive =>
    obtain ⟨rfl, hoffer⟩ := hnode hadmits hserved
    obtain ⟨deeds, rfl, hsilent⟩ := Act.served_host hserved
    rw [hoffer] at hgranted
    refine Delivery.good_of_give hgive (.reading ?_ h.readable) ?_ rfl Delivery.count_pos
      ?_ (hsilent.trans hsent)
    · rw [Nat.zero_mul]
      rfl
    · exact congrArg (fun offer => offer.terms.blockSize.size) hoffer
    · intro _ hoffered
      exact nomatch hgranted.symm.trans hoffered
  | offered hadmits hserved hgranted hsend =>
    obtain ⟨rfl, hoffer⟩ := hnode hadmits hserved
    obtain ⟨deeds, rfl, hsilent⟩ := Act.served_host hserved
    rw [hoffer] at hgranted
    rw [hoffer]
    refine ⟨trivial, Delivery.said_post (hsilent.trans hsent) (.offers hgranted),
      fun _ => ⟨.inr ⟨0, ?_, fun h => absurd rfl h⟩, ?_⟩, nofun⟩
    · refine ⟨rfl, .reading ?_ h.readable, rfl, rfl, Nat.zero_le _, ?_⟩
      · rw [Nat.zero_mul]
        rfl
      · exact (decide_eq_false (Nat.ne_of_lt Delivery.count_pos)).symm
    · intro p hp
      exact Option.some.inj hp ▸ .offers hgranted

/-- The file that a server makes for a writer. -/
theorem Carries.filled_create (h : t.Carries clientHost serverHost node)
    {hsize : node.content.length < Numeral.word64}
    {origin : Origin} {node' : Node} (herrand : t.errand = .deliver origin node') {store : Store}
    {host host' : Host} (hsame : serverHost.SameFiles host)
    (hcreate : host.store.create (Path.join t.service.root t.asked.1) = .ok store)
    (hfiles : Host.SameFiles { host with store } host') :
    (h.delivery hsize).Filled t.target [] 1 host' := by
  have htarget : t.target = .file (Path.join t.service.root t.asked.1) := by rw [target, herrand]
  have hroomy : t.target.Roomy host := by
    have hroomy := h.roomy
    rw [herrand] at hroomy
    exact hroomy.congr hsame
  rw [htarget] at hroomy ⊢
  obtain ⟨hroomy', hheld⟩ := hroomy.create hcreate
  exact .begin (hroomy'.congr hfiles) ((Target.held_congr hfiles).trans hheld) (Nat.le_refl 1)

/-- A server's session that does not open for a writer has made the file, or not even that. -/
theorem Carries.stopped_deliver (h : t.Carries clientHost serverHost node)
    {hsize : node.content.length < Numeral.word64}
    {origin : Origin} {node' : Node} (herrand : t.errand = .deliver origin node')
    {direction : Direction} {filename mode : String} {options : Options} {halt : Halt}
    {scene scene' : Scene} (hread : direction = t.errand.direction ∧ t.asked = (filename, options))
    (hrole : scene.session.role = .serve t.service) (hsame : serverHost.SameFiles scene.host)
    (hsetback : Setback scene (.request direction filename mode options) halt scene') :
    ∃ stage', (h.delivery hsize).Advances 0 stage' ∧
      ((h.delivery hsize).receiver .server t.target [] serverHost).files stage' scene'.host := by
  obtain ⟨-, hasked⟩ := hread
  cases hsetback.files with
  | untouched hfiles => exact ⟨0, .refl 0, .inr ⟨rfl, rfl, hsame.trans hfiles⟩⟩
  | @created _ _ _ service _ _ _ hadmits hcreate hfiles =>
    obtain rfl : t.service = service := Option.some.inj ((congrArg Role.service? hrole).symm.trans
      hadmits.serving)
    refine ⟨1, ⟨Nat.zero_le 1, fun _ => Delivery.one_le_last⟩, .inl ?_⟩
    exact h.filled_create herrand hsame (by rw [hasked]; exact hcreate) hfiles

/-- A server opens its session for a writer: it makes the file, and offers what it grants. -/
theorem Carries.opens_deliver (h : t.Carries clientHost serverHost node)
    {hsize : node.content.length < Numeral.word64}
    {origin : Origin} {node' : Node} (herrand : t.errand = .deliver origin node')
    {direction : Direction} {filename mode : String} {options : Options} {source : Endpoint}
    {phase : Phase} {scene scene' : Scene}
    (hread : direction = t.errand.direction ∧ t.asked = (filename, options))
    (hrole : scene.session.role = .serve t.service) (hsame : serverHost.SameFiles scene.host)
    (hsent : World.sent scene.deeds = [])
    (hturn : Turn source scene .idle (.request direction filename mode options) phase scene') :
    ((h.delivery hsize).receiver .server t.target [] serverHost).Good 1 (scene'.enter phase) := by
  obtain ⟨rfl, hasked⟩ := hread
  rw [herrand] at hturn
  change Turn source scene .idle (.request .write filename mode options) phase scene' at hturn
  cases hturn with
  | @created _ _ _ service stream host hadmits hcreate hsend =>
    obtain rfl : t.service = service := Option.some.inj ((congrArg Role.service? hrole).symm.trans
      hadmits.serving)
    obtain ⟨rfl, store, hstore, rfl⟩ := Stream.create_host hcreate
    have hoffer : Terms.offer options (t.service.told options.announced) =
        (h.delivery hsize).offer := by
      refine @Carries.offer_eq _ _ _ _ h _ node' _ _ _ ?_ hasked
      rw [source?, herrand, hasked]
    have htarget : t.target = .file (Path.join t.service.root filename) := by
      rw [target, herrand, hasked]
    have hspeech : (h.delivery hsize).Speech 1 .server
        (Terms.offer options (t.service.told options.announced)).reply := by
      rw [hoffer]
      unfold Terms.Offer.reply
      split
      · next hempty => exact .takes (Nat.le_refl 1) Delivery.one_le_last fun _ _ => hempty
      · next hoffered => exact .offers (Bool.eq_false_iff.2 hoffered)
    refine ⟨.inl ?_, Delivery.said_post ((World.sent_append_silent _ rfl).trans hsent) hspeech,
      fun _ => ⟨.inr ⟨rfl, ?_, ?_, rfl, Nat.le_refl 1, Delivery.count_pos⟩, ?_⟩,
      fun hends => absurd hends Bool.false_ne_true⟩
    · exact h.filled_create herrand hsame (by rw [hasked]; exact hstore) ⟨rfl, rfl⟩
    · exact congrArg Stream.writing htarget.symm
    · exact congrArg (fun offer => offer.terms.blockSize.size) hoffer
    · intro p hp
      exact Option.some.inj hp ▸ hspeech

variable (t clientHost serverHost)

/-- How both sides of a setting behave. -/
def pair (d : Delivery) : Pair :=
  match t.errand with
  | .fetch target =>
    { client := d.receiver .client target (t.base clientHost) clientHost
      server := d.sender .server
      fresh := fun _ host => serverHost.SameFiles host }
  | .deliver _ _ =>
    { client := d.sender .client
      server := d.receiver .server t.target [] serverHost
      fresh := fun stage host => stage = 0 ∧ serverHost.SameFiles host }

variable {t clientHost serverHost}

/-- What the client sends is read as a request only if it is the one that the transfer is for. -/
theorem Carries.asked_of_speech (h : t.Carries clientHost serverHost node)
    (hsize : node.content.length < Numeral.word64) {stage : Nat} {bytes : Bytes}
    {direction : Direction} {filename mode : String} {options : Options}
    (hspeech : ∃ p, (h.delivery hsize).Speech stage .client p ∧ bytes = p.encode)
    (hread : Packet.decode (bytes.take Listening.longestRequest) =
      .ok (.request direction filename mode options)) :
    direction = t.errand.direction ∧ t.asked = (filename, options) := by
  obtain ⟨p, hspeech, rfl⟩ := hspeech
  have hopcode := Packet.opcode_decode_take (by decide) hread
  cases hspeech with
  | asks hrequest =>
    rw [← hrequest] at hread
    exact asked_of_decode hread
  | reports => cases direction <;> exact nomatch hopcode
  | gives => cases direction <;> exact nomatch hopcode
  | takes => cases direction <;> exact nomatch hopcode

/-- **Both sides behave as they should towards each other.** -/
theorem Carries.fits (h : t.Carries clientHost serverHost node)
    (hsize : node.content.length < Numeral.word64)
    (hfew : blockCount node.content (t.blockSize serverHost.store) ≤ 65535) :
    (t.pair clientHost serverHost (h.delivery hsize)).Fits t := by
  have hfew : (h.delivery hsize).count ≤ 65535 := hfew
  unfold pair
  split
  · next target herrand =>
    exact {
      client := Delivery.receiver_isKept hfew
      server := Delivery.sender_isKept hfew
      last := rfl
      sends_client := fun hadvances _ => Delivery.sends_mono hadvances
      sends_server := fun he _ hsends => he ▸ hsends
      bears_client := fun he => he ▸ ⟨⟨fun _ => id, fun _ => id, fun _ => id⟩, id⟩
      bears_server := fun hadvances => ⟨Delivery.sender_bears hadvances, hadvances.last⟩
      fresh_client := fun _ => id
      fresh_same := fun hfresh hsame => hfresh.trans hsame
      hears_client := Delivery.tells
      hears_server := Delivery.tells
      answer := fun source hsends hfresh hread =>
        (Delivery.sender_isKept hfew).answer trivial
          (fun hrole hsame hsent hturn => ⟨_, rfl, h.opens_fetch herrand
            (h.asked_of_speech hsize hsends hread)
            hrole (hfresh.trans hsame) hsent hturn⟩)
          fun _ _ _ => ⟨_, rfl, trivial⟩ }
  · next origin node' herrand =>
    exact {
      client := Delivery.sender_isKept hfew
      server := Delivery.receiver_isKept hfew
      last := rfl
      sends_client := fun he _ hsends => he ▸ hsends
      sends_server := fun hadvances _ => Delivery.sends_mono hadvances
      bears_client := fun hadvances => ⟨Delivery.sender_bears hadvances, hadvances.last⟩
      bears_server := fun he => he ▸ ⟨⟨fun _ => id, fun _ => id, fun _ => id⟩, id⟩
      fresh_client := fun he hfresh => he ▸ hfresh
      fresh_same := fun ⟨hstage, hfresh⟩ hsame => ⟨hstage, hfresh.trans hsame⟩
      hears_client := Delivery.tells
      hears_server := Delivery.tells
      answer := by
        rintro stage bytes direction filename mode options host source hsends ⟨rfl, hfresh⟩ hread
        have hasked := h.asked_of_speech hsize hsends hread
        refine (Delivery.receiver_isKept hfew).answer (.inr ⟨rfl, rfl, hfresh⟩)
          (fun hrole hsame hsent hturn => ?_) (fun hrole hsame hsetback => ?_)
        · exact ⟨1, ⟨Nat.zero_le 1, fun _ => Delivery.one_le_last⟩, h.opens_deliver herrand hasked
            hrole (hfresh.trans hsame) hsent hturn⟩
        · exact h.stopped_deliver herrand hasked hrole (hfresh.trans hsame) hsetback }

/-- Before anything was sent both sides are as they should be. -/
theorem Carries.holds (h : t.Carries clientHost serverHost node)
    (hsize : node.content.length < Numeral.word64)
    (hfew : blockCount node.content (t.blockSize serverHost.store) ≤ 65535) :
    ∃ stage, (t.pair clientHost serverHost (h.delivery hsize)).Holds stage
      (t.initial clientHost serverHost) := by
  have hspeech : (h.delivery hsize).Speech 0 .client t.request := .asks rfl
  have hfits := h.fits hsize hfew
  have hroomy := h.roomy
  unfold pair at hfits ⊢
  cases herrand : t.errand with
  | fetch target =>
    simp only [herrand] at hfits hroomy ⊢
    have htarget : t.target = target := by rw [Setting.target, herrand]
    have hbase : target.held clientHost = t.base clientHost := by rw [base, herrand]
    have hfilled : (h.delivery hsize).Filled target (t.base clientHost) 0 clientHost :=
      .begin (htarget ▸ hroomy) hbase (Nat.zero_le 1)
    refine hfits.initial (.inl hfilled) trivial (.refl _) ⟨_, hspeech, rfl⟩
      fun hrole hphase hstream hlast => ⟨.inl ⟨⟨rfl, hphase, ?_⟩, rfl, ?_⟩, ?_⟩
    · rw [hrole, herrand]
      rfl
    · rw [hstream, herrand]
      rfl
    · exact fun p hp => Option.some.inj (hlast.symm.trans hp) ▸ hspeech
  | deliver origin node' =>
    simp only [herrand] at hfits ⊢
    refine hfits.initial trivial (.inr ⟨rfl, rfl, .refl _⟩) ⟨rfl, .refl _⟩ ⟨_, hspeech, rfl⟩
      fun hrole hphase hstream hlast => ⟨.inl ⟨⟨rfl, hphase, ?_⟩, ?_⟩, ?_⟩
    · rw [hrole, herrand]
      rfl
    · rw [hstream, herrand, h.node_eq herrand]
      exact .reading rfl h.readable
    · exact fun p hp => Option.some.inj (hlast.symm.trans hp) ▸ hspeech

/-- What the files of the receiver are like while both sides are as they should be. -/
theorem Carries.files (h : t.Carries clientHost serverHost node)
    {hsize : node.content.length < Numeral.word64} {stage : Nat}
    {x : Exchange} (hholds : (t.pair clientHost serverHost (h.delivery hsize)).Holds stage x) :
    ((h.delivery hsize).Filled t.target (t.base clientHost) stage (x.host t.errand.receiver) ∨
      (t.errand.receiver = .server ∧ stage = 0 ∧ serverHost.SameFiles x.serverHost)) ∧
    ∀ party, x.Completed party → stage = (h.delivery hsize).last := by
  unfold pair at hholds
  cases herrand : t.errand with
  | fetch target =>
    simp only [herrand] at hholds
    have htarget : t.target = target := by rw [Setting.target, herrand]
    refine ⟨.inl ?_, hholds.ends⟩
    rw [htarget]
    exact hholds.clientFiles.resolve_right fun ⟨hserver, _⟩ => nomatch hserver
  | deliver origin node' =>
    simp only [herrand] at hholds
    have hbase : t.base clientHost = [] := by rw [base, herrand]
    refine ⟨?_, hholds.ends⟩
    rw [hbase]
    exact hholds.serverFiles.imp_right fun ⟨_, hstage, hsame⟩ => ⟨rfl, hstage, hsame⟩

/-- **Safety.**  Let the sender have something to be read, the receiver room for it, and every block
a number of its own.  Whatever is lost, repeated, delayed or reordered, and whoever loses patience
and when, the bytes written are at every moment the first so many blocks of the content; and all of
the content is written if the receiver comes through, and also if the sender does. -/
theorem Carries.written (h : t.Carries clientHost serverHost node)
    (hfew : blockCount node.content (t.blockSize serverHost.store) ≤ 65535) {x : Exchange}
    (hreachable : t.Reachable (t.initial clientHost serverHost) x) :
    ((∃ j ≤ blockCount node.content (t.blockSize serverHost.store),
        t.target.held (x.host t.errand.receiver) =
          t.base clientHost ++ node.content.take (j * t.blockSize serverHost.store)) ∨
      (t.errand.receiver = .server ∧ serverHost.SameFiles x.serverHost)) ∧
    (x.Completed t.errand.receiver →
      t.target.held (x.host t.errand.receiver) = t.base clientHost ++ node.content) ∧
    (x.Completed t.errand.sender →
      t.target.held (x.host t.errand.receiver) = t.base clientHost ++ node.content) := by
  have hsize : node.content.length < Numeral.word64 := by
    have hlt : node.content.length < 65535 * t.blockSize serverHost.store :=
      (Nat.div_lt_iff_lt_mul (Nat.lt_of_lt_of_le (by decide)
        (t.offer serverHost.store).terms.blockSize.least_le)).1 hfew
    have hle := Nat.mul_le_mul_left 65535 (t.offer serverHost.store).terms.blockSize.le_most
    exact Nat.lt_of_lt_of_le hlt (Nat.le_trans hle (by decide))
  obtain ⟨stage, hholds⟩ := h.holds hsize hfew
  obtain ⟨stage', hholds'⟩ := (h.fits hsize hfew).reachable hholds hreachable
  obtain ⟨hfiles, hends⟩ := h.files hholds'
  have hwhole : ∀ party, x.Completed party →
      t.target.held (x.host t.errand.receiver) = t.base clientHost ++ node.content := by
    intro party hcompleted
    obtain rfl := hends party hcompleted
    exact (hfiles.resolve_right fun ⟨_, hstage, _⟩ => nomatch hstage).whole
  refine ⟨hfiles.imp (fun hfilled => ?_) fun ⟨hserver, _, hsame⟩ => ⟨hserver, hsame⟩,
    hwhole _, hwhole _⟩
  exact ⟨stage' - 1, Nat.sub_le_of_le_add hfilled.le_last, hfilled.held⟩

/-- The upload of three bytes. -/
def threeBytes : Setting where
  client := { server := "127.0.0.1" }
  clientIp := .v4 127 0 0 1
  serverIp := .v4 127 0 0 1
  service := { root := "root" }
  timing := {}
  filename := "file"
  options := ∅
  errand := .deliver .held { content := [1, 2, 3] }

theorem written_threeBytes :
    ∃ x, threeBytes.Reachable (threeBytes.initial {} { ports := [69] }) x ∧ x.Completed .client ∧
      (Target.file "root/file").held x.serverHost = [1, 2, 3] := by
  have hcarries : threeBytes.Carries {} { ports := [69] } { content := [1, 2, 3] } :=
    ⟨rfl, nofun, rfl⟩
  -- The request, the acknowledgement of block 0, block 1 and its acknowledgement arrive.
  have hreachable : threeBytes.Reachable (threeBytes.initial {} { ports := [69] }) _ :=
    (((Relation.ReflTransGen.refl.tail (.deliver (List.nil_append _).symm)).tail
      (.deliver (List.nil_append _).symm)).tail (.deliver (List.nil_append _).symm)).tail
      (.deliver (List.nil_append _).symm)
  exact ⟨_, hreachable, ⟨_, rfl⟩, (hcarries.written (by decide) hreachable).2.2 ⟨_, rfl⟩⟩

end Setting

end TrivialFtp
