import TrivialFtp.Proofs.Finishes
import TrivialFtp.Proofs.Responses

/-!
# Proofs: a sender against any peer

Whatever arrives at a session that gives a file, and whatever becomes of its host, the blocks that
it sends for the first time are those of the file, one after the other; and what it makes of the
next arrival is told from how many of them have gone out.

- `Session.Supplies`, `Giving`: the file that a session gives, and the record of its run.
- `Session.Deals`: a session that waits has sent so many blocks and has the rest of its stream left.
- `Turn.deals`, `Session.Deals.goesOn`: at a turn the next block goes out, or none does.
- `Giving.sends_each_block_once`: what holds of every run.
-/

namespace TrivialFtp

/-- The file that a session gives, when it opens on a host: an upload has it already, and a server
finds it under the name that it is asked for. -/
inductive Session.Supplies (session : Session) (host : Host) : Opening → Node → Prop where
  | upload {opening : Opening} {origin : Origin} {node : Node} (hrole : session.role = .upload)
      (hstream : session.stream = .reading origin node) : Supplies session host opening node
  | serve {service : Service} {filename mode : String} {requested : Options} {source : Endpoint}
      {node : Node} {size : Option Nat} {scene : Scene} (hrole : session.role = .serve service)
      (hserved : Served service filename ⟨session, host, []⟩ node size scene) :
    Supplies session host (.answer (.request .read filename mode requested) source) node

/-- The record of a session that gives a file, whatever arrives and whatever its hosts are. -/
inductive Giving (session : Session) (opening : Opening) (node : Node) :
    Run → List Deed → Prop where
  | start (host : Host) (hsupplies : session.Supplies host opening node) :
    Giving session opening node (Run.start session opening host).1
      (Run.start session opening host).2.2
  | step {run : Run} {deeds : List Deed} (hgiving : Giving session opening node run deeds)
      (arrival : Arrival) (host : Host) :
    Giving session opening node (run.step arrival host).1 (deeds ++ (run.step arrival host).2.2)

/-- The first blocks of a content, numbered from 1. -/
def pagesOf (content : Bytes) (size k : Nat) : List (UInt16 × Bytes) :=
  (List.range k).map fun i => (.ofNat (i + 1), blockAt content size i)

/-- A session that waits has sent so many blocks of a content.  If it has sent any, it waits for the
acknowledgement of the last of them. -/
inductive Session.Deals (content : Bytes) : Nat → Session → Prop where
  | asking {s : Session} (hphase : s.phase = .requested) (hrole : s.role = .upload)
      (hnext : s.nextBlock = 0) (hleft : s.stream.HasLeft content 0) : Deals content 0 s
  | offering {s : Session} (hphase : s.phase = .offering) (hfinal : s.finalSent = false)
      (hnext : s.nextBlock = 0) (hleft : s.stream.HasLeft content 0) : Deals content 0 s
  | awaiting {k : Nat} {s : Session} (hphase : s.phase = .awaitingAck) (hpos : 0 < k)
      (hle : k ≤ blockCount content s.blockSize) (hnext : s.nextBlock = .ofNat k)
      (hfinal : s.finalSent = decide (k = blockCount content s.blockSize))
      (hleft : s.stream.HasLeft content (k * s.blockSize)) : Deals content k s

/-- A packet that asks for the block after the first `k`: the acknowledgement of the last of them,
or, when there are none yet, the options that are granted. -/
def Packet.AsksFor (k : Nat) (packet : Packet) : Prop :=
  packet = .ack (.ofNat k) ∨ k = 0 ∧ ∃ granted, packet = .optionAck granted

/-- How a session that has sent `k` blocks goes on when something arrives: no block goes out, or
the next one does because it was asked for.  Once a block has gone out the terms stay. -/
inductive Session.GoesOn (content : Bytes) (k : Nat) (s : Session) (arrival : Arrival) :
    Run → List Deed → Prop where
  | rests {run : Run} {deeds : List Deed} (hpages : World.pages deeds = [])
      (hdeals : ∀ s', run = .waiting s' → s'.Deals content k ∧ (0 < k → s'.terms = s.terms)) :
    GoesOn content k s arrival run deeds
  | sends {packet : Packet} {s' : Session} {deeds : List Deed} (hgets : s.Gets arrival packet)
      (hasks : packet.AsksFor k)
      (hpages : World.pages deeds = [(.ofNat (k + 1), blockAt content s'.blockSize k)])
      (hdeals : s'.Deals content (k + 1)) (hterms : 0 < k → s'.terms = s.terms) :
    GoesOn content k s arrival (.waiting s') deeds

section

variable {content : Bytes} {size k : Nat} {scene scene' : Scene} {source : Endpoint}
  {s s' : Session}

theorem pagesOf_succ :
    pagesOf content size (k + 1) =
      pagesOf content size k ++ [(.ofNat (k + 1), blockAt content size k)] := by
  rw [pagesOf, List.range_succ, List.map_append]
  rfl

theorem Session.blockSize_pos (s : Session) : 0 < s.blockSize :=
  Nat.lt_of_lt_of_le (by decide) s.terms.blockSize.least_le

/-! ### One turn -/

namespace Session.Deals

theorem alike (h : s.Deals content k) (halike : s.Alike s') : s'.Deals content k := by
  rw [halike]
  cases h with
  | asking hphase hrole hnext hleft => exact .asking hphase hrole hnext hleft
  | offering hphase hfinal hnext hleft => exact .offering hphase hfinal hnext hleft
  | awaiting hphase hpos hle hnext hfinal hleft =>
    exact .awaiting hphase hpos hle hnext hfinal hleft

theorem waits (h : s.Deals content k) : s.phase.isTerminal = false := by
  cases h with
  | asking hphase | offering hphase | awaiting hphase => rw [hphase]; rfl

theorem nextBlock (h : s.Deals content k) : s.nextBlock = .ofNat k := by
  cases h <;> assumption

theorem hasLeft (h : s.Deals content k) : s.stream.HasLeft content (k * s.blockSize) := by
  cases h with
  | asking _ _ _ hleft | offering _ _ _ hleft => rwa [Nat.zero_mul]
  | awaiting => assumption

/-- A session that has sent blocks waits for the acknowledgement of the last of them. -/
theorem awaitingAck (h : s.Deals content k) (hk : 0 < k) : s.phase = .awaitingAck := by
  cases h with
  | asking | offering => exact absurd hk (Nat.lt_irrefl 0)
  | awaiting hphase => exact hphase

end Session.Deals

/-- No block goes out at a turn of a session that has sent `k` of them. -/
structure Scene.Rests (content : Bytes) (k : Nat) (scene scene' : Scene) : Prop where
  pages : World.pages scene'.deeds = World.pages scene.deeds
  deals : scene'.session.phase.isTerminal = false → scene'.session.Deals content k
  terms : 0 < k → scene'.session.terms = scene.session.terms

/-- The block after the first `k` goes out, on the terms of those before. -/
structure Scene.Sends (content : Bytes) (k : Nat) (scene scene' : Scene) : Prop where
  pages : World.pages scene'.deeds =
    World.pages scene.deeds ++ [(.ofNat (k + 1), blockAt content scene'.session.blockSize k)]
  deals : scene'.session.Deals content (k + 1)
  terms : 0 < k → scene'.session.terms = scene.session.terms

theorem Give.sends (h : Give scene scene')
    (hleft : scene.session.stream.HasLeft content (k * scene.session.blockSize))
    (hnext : scene.session.nextBlock = .ofNat (k + 1))
    (hk : k < blockCount content scene.session.blockSize) {before : Scene}
    (hpages : World.pages scene.deeds = World.pages before.deeds)
    (hterms : 0 < k → scene.session.terms = before.session.terms) :
    before.Sends content k (scene'.enter .awaitingAck) := by
  obtain ⟨hread, -⟩ := h
  obtain ⟨rfl, hrest⟩ := hleft.read hread
  refine ⟨?_, .awaiting rfl (Nat.succ_pos k) hk hnext ?_ hrest, hterms⟩
  · rw [← hpages, ← hnext]
    exact World.pages_page rfl
  · exact decide_eq_decide.2 (length_blockAt_lt_iff scene.session.blockSize_pos hk)

theorem Give.sends_first (h : Give scene scene') (hleft : scene.session.stream.HasLeft content 0)
    (hnext : scene.session.nextBlock = 1) {before : Scene}
    (hpages : World.pages scene.deeds = World.pages before.deeds) :
    before.Sends content 0 (scene'.enter .awaitingAck) := by
  refine h.sends ?_ hnext (Nat.succ_pos _) hpages nofun
  rwa [Nat.zero_mul]

/-- **One turn.**  A packet makes a session send the block that is next if it acknowledges the last
one sent, or answers the request; otherwise no block goes out. -/
theorem Turn.deals {phase phase' : Phase} {packet : Packet}
    (h : Turn source scene phase packet phase' scene') (hbefore : scene.session.phase = phase)
    (hdeals : scene.session.Deals content k) :
    scene.Rests content k (scene'.enter phase') ∨
      packet.AsksFor k ∧ scene.Sends content k (scene'.enter phase') := by
  subst hbefore
  cases hdeals with
  | asking hphase hrole hnext hleft =>
    rw [hphase] at h
    cases h with
    | lastAck hsender | ack hsender | oldAck hsender => exact hsender.elim nofun nofun
    | grantedRead hrole' | firstBlock hrole' => exact nomatch hrole'.symm.trans hrole
    | grantedWrite _ _ hgive =>
      exact .inr ⟨.inr ⟨rfl, _, rfl⟩, hgive.sends_first hleft rfl rfl⟩
    | firstAck _ hgive => exact .inr ⟨.inl rfl, hgive.sends_first hleft rfl rfl⟩
    | strayAck => exact .inl ⟨rfl, fun _ => .asking rfl hrole hnext hleft, nofun⟩
  | offering hphase hfinal hnext hleft =>
    rw [hphase] at h
    cases h with
    | lastAck _ hlast => exact nomatch hfinal.symm.trans hlast
    | ack _ _ hgive =>
      have hfirst : scene.session.advance.nextBlock = 1 := Session.advance_ofNat hnext
      exact .inr ⟨.inl (congrArg _ hnext), hgive.sends_first hleft hfirst rfl⟩
    | oldAck _ hold =>
      rw [hnext] at hold
      exact absurd hold (Nat.not_lt_zero _)
  | awaiting hphase hpos hle hnext hfinal hleft =>
    rw [hphase] at h
    cases h with
    | lastAck => exact .inl ⟨rfl, nofun, fun _ => rfl⟩
    | ack _ hmore hgive =>
      refine .inr ⟨.inl (congrArg _ hnext), hgive.sends hleft ?_ ?_ rfl fun _ => rfl⟩
      · exact Session.advance_ofNat hnext
      · exact Nat.lt_of_le_of_ne hle (of_decide_eq_false (hfinal.symm.trans hmore))
    | oldAck => exact .inl ⟨rfl, fun _ => .awaiting rfl hpos hle hnext hfinal hleft, fun _ => rfl⟩

theorem Scene.Abides.rests (h : scene.Abides scene') (hdeals : scene.session.Deals content k)
    (hpages : World.pages scene'.deeds = World.pages scene.deeds) :
    scene.Rests content k scene' where
  pages := hpages
  deals _ := hdeals.alike h.alike
  terms _ := by rw [h.alike]

/-- **One move.** -/
theorem Move.deals {arrival : Arrival} (h : Move arrival scene scene')
    (hdeals : scene.session.Deals content k) :
    scene.Rests content k scene' ∨
      (∃ packet, scene.session.Gets arrival packet ∧ packet.AsksFor k) ∧
        scene.Sends content k scene' := by
  cases h with
  | @handled source bytes packet phase _ scene' hown hread hturn =>
    have hsession := Scene.showing_session scene.heard packet
    have hpages : World.pages (scene.heard.showing packet).deeds = World.pages scene.deeds :=
      (scene.heard.quiet_showing packet).hushed.same.pages
    have hterms : (scene.heard.showing packet).session.terms = scene.session.terms := by
      rw [hsession]
      rfl
    have hshown : (scene.heard.showing packet).session.Deals content k := by
      rw [hsession]
      exact hdeals.alike rfl
    rcases hturn.deals (by rw [hsession]; rfl) hshown with hrests | ⟨hasks, hsends⟩
    · exact .inl ⟨hrests.pages.trans hpages, hrests.deals,
        fun hk => (hrests.terms hk).trans hterms⟩
    · exact .inr ⟨⟨packet, ⟨source, bytes, rfl, hown, hread⟩, hasks⟩, hpages ▸ hsends.pages,
        hsends.deals, fun hk => (hsends.terms hk).trans hterms⟩
  | dropped hdrop =>
    exact .inl (hdrop.abides.rests hdeals (congrArg World.pages hdrop.deeds))
  | impatient hdrop _ hrepeat =>
    refine .inl ((hdrop.abides.trans hrepeat.abides).rests hdeals (hrepeat.pages.trans ?_))
    exact congrArg World.pages hdrop.deeds
  | silent hrepeat => exact .inl (hrepeat.abides.rests hdeals hrepeat.pages)

/-- **One step.** -/
theorem Session.Deals.goesOn (h : s.Deals content k) (arrival : Arrival) (host : Host) :
    s.GoesOn content k arrival ((Run.waiting s).step arrival host).1
      ((Run.waiting s).step arrival host).2.2 := by
  have hstopped : ∀ {halt scene run deeds}, Stop arrival ⟨s, host, []⟩ halt scene →
      World.Same scene.deeds deeds → run.isEnded = true → s.GoesOn content k arrival run deeds := by
    intro halt scene run deeds hstop hsame hended
    refine .rests (hsame.pages.trans hstop.same.pages) fun s' hrun => ?_
    exact nomatch hrun ▸ hended
  have houtcome := Run.step_stops s arrival host
  generalize (Run.waiting s).step arrival host = result at houtcome ⊢
  cases houtcome with
  | @waits scene hmove hphase =>
    rcases hmove.deals h with hrests | ⟨⟨packet, hgets, hasks⟩, hsends⟩
    · refine .rests hrests.pages fun s' hrun => ?_
      obtain rfl := Run.waiting.inj hrun
      exact ⟨hrests.deals hphase, hrests.terms⟩
    · exact .sends hgets hasks hsends.pages hsends.deals hsends.terms
  | @concludes scene hmove hphase =>
    rcases hmove.deals h with hrests | ⟨-, hsends⟩
    · refine .rests ((Run.same_finish none scene).pages.trans hrests.pages) fun s' hrun => ?_
      exact nomatch hrun ▸ Run.isEnded_finish none scene
    · exact nomatch hsends.deals.waits.symm.trans hphase
  | fails hstop => exact hstopped hstop (Run.same_finish _ _) (Run.isEnded_finish _ _)
  | crashes hstop => exact hstopped hstop (.refl _) rfl

/-! ### The opening -/

/-- Two files are not served under one name. -/
theorem Served.node_unique {service : Service} {filename : String} {node node' : Node}
    {size size' : Option Nat} {scene₁ scene₁' : Scene}
    (h : Served service filename scene node size scene₁)
    (h' : Served service filename scene' node' size' scene₁')
    (hstore : scene'.host.store = scene.host.store) : node' = node := by
  have hfile : ∀ {found : Node}, scene.host.store.openNode (Path.join service.root filename) =
      .ok found → found.isFile → ¬ NoFile scene.host.store (Path.join service.root filename) := by
    rintro found hopen hfile (⟨other, hlook, hother⟩ | ⟨f, hlook, -⟩)
    · rw [Except.ok.inj ((Store.look_of_openNode hopen).symm.trans hlook), hother] at hfile
      exact nomatch hfile
    · exact nomatch (Store.look_of_openNode hopen).symm.trans hlook
  cases h with
  | file hopen hisFile =>
    cases h' with
    | file hopen' => exact Except.ok.inj ((hstore ▸ hopen').symm.trans hopen)
    | resolved hmissing => exact absurd (hstore ▸ hmissing) (hfile hopen hisFile)
  | resolved hmissing hresolver hcontent =>
    cases h' with
    | file hopen' hisFile' => exact absurd hmissing (hfile (hstore ▸ hopen') hisFile')
    | resolved _ hresolver' hcontent' =>
      obtain rfl := Option.some.inj (hresolver'.symm.trans hresolver)
      exact Resolution.content.inj (Option.some.inj (hcontent'.symm.trans hcontent))

theorem Stream.HasLeft.all {origin : Origin} {node : Node} (hchunk : node.chunk ≠ some 0) :
    (Stream.reading origin node).HasLeft node.content 0 := .reading rfl hchunk

/-- A server that is asked for a file offers its terms, or sends the first block. -/
theorem Turn.deals_served {filename mode : String} {requested : Options} {phase : Phase}
    {node : Node}
    (h : Turn source scene .idle (.request .read filename mode requested) phase scene')
    (hfile : ∀ {service session found size scene₁}, scene.session.role.service? = some service →
      Served service filename (scene.become session) found size scene₁ → found = node)
    (hchunk : node.chunk ≠ some 0) (hpages : World.pages scene.deeds = []) :
    ∃ k, World.pages scene'.deeds = pagesOf node.content scene'.session.blockSize k ∧
      (scene'.enter phase).session.Deals node.content k := by
  cases h with
  | offered hadmits hserved =>
    obtain rfl := hfile hadmits.serving hserved
    refine ⟨0, ?_, .offering rfl rfl rfl (.all hchunk)⟩
    refine (World.pages_silent _ (Deed.page?_other rfl ?_)).trans
      (hserved.hushed.same.pages.trans hpages)
    exact nofun
  | @served _ _ _ _ found _ scene₁ _ hadmits hserved _ hgive =>
    obtain rfl := hfile hadmits.serving hserved
    have hsends := @Give.sends_first found.content _ _ hgive (.all hchunk) rfl scene₁ rfl
    have hnone := hserved.hushed.same.pages.trans hpages
    exact ⟨1, hsends.pages.trans (by rw [hnone]; rfl), hsends.deals⟩

/-- A session opens with no block on the wire, or with the first one. -/
theorem Opened.deals {session : Session} {opening : Opening} {host : Host} {node : Node}
    (hbegins : Begins session opening) (hsupplies : session.Supplies host opening node)
    (hchunk : node.chunk ≠ some 0) (h : Opened opening ⟨session, host, []⟩ scene) :
    ∃ k, World.pages scene.deeds = pagesOf node.content scene.session.blockSize k ∧
      scene.session.Deals node.content k := by
  cases hsupplies with
  | upload hrole hstream =>
    cases hbegins with
    | download | serve => exact nomatch hrole
    | upload =>
      obtain ⟨-, rfl⟩ := Stream.reading.inj hstream
      cases h with
      | asked =>
        refine ⟨0, World.pages_silent [] (Deed.page?_other rfl ?_), ?_⟩
        · exact nofun
        · exact .asking rfl rfl rfl (.all hchunk)
  | serve hrole hserved =>
    cases hbegins with
    | serve =>
      cases h with
      | answered hturn =>
        refine hturn.deals_served (fun hserving hfound => ?_) hchunk ?_
        · rw [Scene.showing_session, hrole] at hserving
          obtain rfl := Option.some.inj hserving
          exact hserved.node_unique hfound (congrArg Host.store (Scene.showing_host _ _))
        · exact (Scene.quiet_showing _ _).hushed.same.pages

/-! ### Runs -/

/-- What a run has sent of a content: so many blocks of one size. -/
structure Run.Dealt (content : Bytes) (size k : Nat) (run : Run) (deeds : List Deed) : Prop where
  pages : World.pages deeds = pagesOf content size k
  le : k ≤ blockCount content size
  stands : ∀ s, run = .waiting s → s.Deals content k ∧ (0 < k → s.blockSize = size)

theorem Session.Deals.le (h : s.Deals content k) : k ≤ blockCount content s.blockSize := by
  cases h with
  | asking | offering => exact Nat.zero_le _
  | awaiting => assumption

theorem Run.Dealt.goesOn {run : Run} {deeds deeds' : List Deed} {arrival : Arrival}
    (h : (Run.waiting s).Dealt content size k deeds)
    (hgoes : s.GoesOn content k arrival run deeds') :
    ∃ size' k', run.Dealt content size' k' (deeds ++ deeds') := by
  obtain ⟨hpages, hle, hstands⟩ := h
  obtain ⟨-, hsize⟩ := hstands s rfl
  cases hgoes with
  | rests hnone hdeals =>
    refine ⟨size, k, ?_, hle, fun s' hrun => ?_⟩
    · rw [World.pages_append, hnone, List.append_nil, hpages]
    · obtain ⟨hdeals, hterms⟩ := hdeals s' hrun
      refine ⟨hdeals, fun hk => ?_⟩
      rw [← hsize hk, Session.blockSize, hterms hk, Session.blockSize]
  | @sends packet s' deeds' _ _ hnext hdeals hterms =>
    refine ⟨s'.blockSize, k + 1, ?_, hdeals.le, ?_⟩
    · -- The blocks before are of the same size, unless there are none.
      have hsame : pagesOf content size k = pagesOf content s'.blockSize k := by
        rcases Nat.eq_zero_or_pos k with rfl | hk
        · rfl
        · rw [← hsize hk, Session.blockSize, Session.blockSize, hterms hk]
      rw [World.pages_append, hpages, hnext, hsame, pagesOf_succ]
    · rintro _ ⟨⟩
      exact ⟨hdeals, fun _ => rfl⟩

theorem Giving.dealt {session : Session} {opening : Opening} {node : Node} {run : Run}
    {deeds : List Deed} (hbegins : Begins session opening) (hchunk : node.chunk ≠ some 0)
    (h : Giving session opening node run deeds) :
    ∃ size k, run.Dealt node.content size k deeds := by
  induction h with
  | start host hsupplies =>
    have hnone : ∀ {run : Run} {deeds : List Deed}, run.isEnded = true → World.pages deeds = [] →
        ∃ size k, run.Dealt node.content size k deeds := fun hended hpages =>
      ⟨0, 0, hpages, Nat.zero_le _, fun s hrun => nomatch hrun ▸ hended⟩
    have houtcome := Run.start_stops hbegins host
    generalize Run.start session opening host = result at houtcome ⊢
    cases houtcome with
    | waits hopened =>
      obtain ⟨k, hpages, hdeals⟩ := hopened.deals hbegins hsupplies hchunk
      refine ⟨_, k, hpages, hdeals.le, ?_⟩
      rintro _ ⟨⟩
      exact ⟨hdeals, fun _ => rfl⟩
    | concludes hopened hphase =>
      obtain ⟨k, -, hdeals⟩ := hopened.deals hbegins hsupplies hchunk
      exact nomatch hdeals.waits.symm.trans hphase
    | fails hstumble =>
      exact hnone (Run.isEnded_finish _ _)
        ((Run.same_finish _ _).pages.trans hstumble.same.pages)
    | crashes hstumble => exact hnone rfl hstumble.same.pages
  | @step run deeds _ arrival host ih =>
    obtain ⟨size, k, hdealt⟩ := ih
    cases run with
    | waiting s => exact hdealt.goesOn ((hdealt.stands s rfl).1.goesOn arrival host)
    | ended ending =>
      refine ⟨size, k, ?_⟩
      change Run.Dealt _ _ _ (.ended ending) (deeds ++ [])
      rwa [List.append_nil]

/-! ### Acknowledgements -/

/-- An acknowledgement that a sender has had before makes it send nothing, not even when it was
noted too often. -/
theorem Run.tried_oldAck {n : UInt16} {bytes : Bytes} (hphase : s.phase = .awaitingAck)
    (hold : n < s.nextBlock) (hown : s.isForeign source = false)
    (hread : Packet.decode (bytes.take Act.longestPacket) = .ok (.ack n)) (host : Host) :
    World.tried ((Run.waiting s).step (.datagram source bytes) host).2.2 = [] := by
  obtain ⟨deeds, hhushed, hscene⟩ := Scene.heard_hushed s host (.ack n)
  cases hmany : (s.tally.note n).exceeds n with
  | true =>
    rw [Run.step_failed hown hread (by
      rw [hscene]
      exact Act.run_handle_many (.inr ⟨rfl, hphase⟩) hold hmany), Run.finish_some]
    exact hhushed
  | false =>
    rw [Run.step_handled hown hread (by
      rw [hscene]
      exact Turn.oldAck (.inl hphase) hold hmany), Run.rest_waiting rfl]
    exact hhushed

/-- What a session that has sent `k` blocks of a content makes of an arrival. -/
structure Session.Answers (content : Bytes) (k : Nat) (s : Session) (arrival : Arrival)
    (host : Host) : Prop where
  goesOn : s.GoesOn content k arrival ((Run.waiting s).step arrival host).1
    ((Run.waiting s).step arrival host).2.2
  /-- An acknowledgement that comes again, by its number, makes it send nothing. -/
  again : ∀ n, s.Gets arrival (.ack n) → n < .ofNat k →
    World.tried ((Run.waiting s).step arrival host).2.2 = []
  /-- One of a number still to come is a violation. -/
  ahead : 0 < k → ∀ n, s.Gets arrival (.ack n) → .ofNat k < n →
    ∃ tally, ((Run.waiting s).step arrival host).1 =
      .ended (.failed (.violation (.unsentBlock n (.ofNat k))) tally)
  /-- The acknowledgement of the last block is what it ends on. -/
  done : s.IsDoneBy arrival host ↔
    s.Gets arrival (.ack (.ofNat k)) ∧ k = blockCount content s.blockSize
  completes : s.IsDoneBy arrival host →
    ∃ tally, ((Run.waiting s).step arrival host).1 = .ended (.completed tally)

namespace Session.Deals

/-- The acknowledgement of the last block ends the transfer. -/
theorem lastAck (h : s.Deals content k) (hlast : k = blockCount content s.blockSize)
    (source : Endpoint) (host : Host) (deeds : List Deed) :
    Turn source ⟨{ s with heardAt := host.clock + 1 }, { host with clock := host.clock + 1 }, deeds⟩
      s.phase (.ack (.ofNat k)) .done
      ⟨{ s with heardAt := host.clock + 1 }, { host with clock := host.clock + 1 }, deeds⟩ := by
  cases h with
  | asking | offering => exact absurd hlast.symm (Nat.succ_ne_zero _)
  | awaiting hphase _ _ hnext hfinal =>
    rw [← hnext]
    exact .lastAck (.inl hphase) (hfinal.trans (decide_eq_true hlast))

theorem done_iff (h : s.Deals content k) (arrival : Arrival) (host : Host) :
    s.IsDoneBy arrival host ↔
      s.Gets arrival (.ack (.ofNat k)) ∧ k = blockCount content s.blockSize := by
  rw [isDoneBy_iff h.waits]
  constructor
  · rintro ⟨source, bytes, packet, scene, rfl, hown, hread, hturn⟩
    obtain ⟨deeds, -, hscene⟩ := Scene.heard_showing s host packet
    rw [hscene] at hturn
    cases h with
    | asking hphase hrole =>
      rw [hphase] at hturn
      cases hturn with
      | lastAck hsender => exact hsender.elim nofun nofun
      | firstBlock hrole' => exact nomatch hrole'.symm.trans hrole
    | offering hphase hfinal =>
      rw [hphase] at hturn
      cases hturn with
      | lastAck _ hlast => exact nomatch hfinal.symm.trans hlast
    | awaiting hphase _ _ hnext hfinal =>
      rw [hphase] at hturn
      cases hturn with
      | lastAck _ hlast =>
        refine ⟨⟨source, bytes, rfl, hown, hnext ▸ hread⟩, ?_⟩
        exact of_decide_eq_true (hfinal.symm.trans hlast)
  · rintro ⟨⟨source, bytes, rfl, hown, hread⟩, hlast⟩
    obtain ⟨deeds, -, hscene⟩ := Scene.heard_showing s host (.ack (.ofNat k))
    have hturn := h.lastAck hlast source host deeds
    rw [← hscene] at hturn
    exact ⟨source, bytes, _, _, rfl, hown, hread, hturn⟩

theorem answers (h : s.Deals content k) (arrival : Arrival) (host : Host) :
    s.Answers content k arrival host where
  goesOn := h.goesOn arrival host
  again := by
    rintro n ⟨source, bytes, rfl, hown, hread⟩ hold
    rcases Nat.eq_zero_or_pos k with rfl | hk
    · exact absurd hold (Nat.not_lt_zero _)
    · exact Run.tried_oldAck (h.awaitingAck hk) (h.nextBlock ▸ hold) hown hread host
  ahead := by
    rintro hk n ⟨source, bytes, rfl, hown, hread⟩ hahead
    rw [← h.nextBlock] at hahead ⊢
    exact (Refuses.unsent (.inl (h.awaitingAck hk)) hahead).step hown hread host
  done := h.done_iff arrival host
  completes := by
    intro hdone
    obtain ⟨⟨source, bytes, rfl, hown, hread⟩, hlast⟩ := (h.done_iff arrival host).1 hdone
    obtain ⟨deeds, -, hscene⟩ := Scene.heard_showing s host (.ack (.ofNat k))
    rw [Run.step_handled hown hread (by rw [hscene]; exact h.lastAck hlast source host deeds),
      Run.rest_done (h.hasLeft.closeFault _)]
    exact ⟨_, rfl⟩

end Session.Deals

/-- **A sender against any peer.**  Whatever arrives at a session that gives a file, and whatever
becomes of its host, it has sent the first blocks of the file, each of them once, in order, and all
of one size; how it goes on is told from how many there were.  The next block goes out only when it
is asked for.  An acknowledgement that comes again makes it send nothing, as long as its number says
so: one of a number still to come is a violation, be it from the lap before.  It is done by the
acknowledgement of the last block and by nothing else. -/
theorem Giving.sends_each_block_once {session : Session} {opening : Opening} {node : Node}
    {run : Run} {deeds : List Deed} (hbegins : Begins session opening)
    (hchunk : node.chunk ≠ some 0) (h : Giving session opening node run deeds) :
    ∃ size k, World.pages deeds = pagesOf node.content size k ∧ k ≤ blockCount node.content size ∧
      ∀ s, run = .waiting s → (0 < k → s.blockSize = size) ∧
        ∀ arrival host, s.Answers node.content k arrival host := by
  obtain ⟨size, k, hpages, hle, hstands⟩ := h.dealt hbegins hchunk
  refine ⟨size, k, hpages, hle, fun s hrun => ?_⟩
  obtain ⟨hdeals, hsize⟩ := hstands s hrun
  exact ⟨hsize, fun arrival host => hdeals.answers arrival host⟩

end

namespace Giving

/-- A file of three bytes, of which the first read gives one. -/
def threeBytes : Node := { content := [1, 2, 3], pieces := [⟨1, by decide⟩] }

/-- The server that takes it, and the upload that has it. -/
def server : Endpoint := ⟨.v4 10 0 0 2, 5000, 0⟩

def upload (node : Node) : Session :=
  .client .upload 40001 ⟨.v4 10 0 0 2, 69, 0⟩ (.reading .held node) ∅ {} false 1

def ask : Opening := .request (.octetRequest .write "f" ∅)

/-- When the server is ready the three bytes go out as one block, which is the last one. -/
theorem sends_threeBytes :
    ∃ s deeds, Giving (upload threeBytes) ask threeBytes (.waiting s) deeds ∧
      World.pages deeds = pagesOf threeBytes.content 512 1 ∧
      s.IsDoneBy (.datagram server (Packet.ack 1).encode) {} := by
  obtain ⟨s, deeds, hgiving, hpages, hsize, hgets⟩ :
      ∃ s deeds, Giving (upload threeBytes) ask threeBytes (.waiting s) deeds ∧
        World.pages deeds = pagesOf threeBytes.content 512 1 ∧ s.blockSize = 512 ∧
        s.Gets (.datagram server (Packet.ack 1).encode) (.ack 1) :=
    ⟨_, _, .step (.start {} (.upload rfl rfl)) (.datagram server (Packet.ack 0).encode) {},
      rfl, rfl, server, _, rfl, rfl, rfl⟩
  obtain ⟨size, k, hsent, -, hwaits⟩ := sends_each_block_once .upload (by decide) hgiving
  obtain rfl : k = 1 := by
    have hlength := congrArg List.length (hpages.symm.trans hsent)
    simpa [pagesOf] using hlength.symm
  obtain ⟨-, hanswers⟩ := hwaits s rfl
  refine ⟨s, deeds, hgiving, hpages, (hanswers _ _).done.2 ⟨hgets, ?_⟩⟩
  rw [hsize]
  rfl

/-! ### The end of a lap -/

/-- A sender that can read and send has the next block to give. -/
theorem exists_give {scene : Scene} (hsound : scene.session.stream.IsSound)
    (hsteady : scene.host.Steady) :
    ∃ payload stream, stream.IsSound ∧ Give scene
      (scene.post (.data scene.session.nextBlock payload) (scene.session.gave payload stream)) := by
  obtain ⟨payload, stream, hread, hrest⟩ := hsound.read scene.session.blockSize
  have hlength : payload.length ≤ BlockSize.most :=
    Nat.le_trans (Stream.length_le_of_read hread) scene.session.terms.blockSize.le_most
  exact ⟨payload, stream, hrest, .mk hread (hsteady.canSend (Packet.passes_data _ hlength).short)⟩

/-- It sends that block when it gets the acknowledgement of the one before. -/
theorem next_of_ack {content : Bytes} {k : Nat} {s : Session} {source : Endpoint} {host : Host}
    (h : s.Deals content k) (hk : 0 < k) (hmore : k < blockCount content s.blockSize)
    (hsound : s.stream.IsSound) (hown : s.isForeign source = false) (hsteady : host.Steady) :
    ∃ s', ((Run.waiting s).step (.datagram source (Packet.ack (.ofNat k)).encode) host).1 =
        .waiting s' ∧
      World.pages ((Run.waiting s).step (.datagram source (Packet.ack (.ofNat k)).encode) host).2.2 =
        [(.ofNat (k + 1), blockAt content s.blockSize k)] ∧
      s'.Deals content (k + 1) ∧ s'.blockSize = s.blockSize ∧ s'.stream.IsSound ∧
      s'.isForeign source = false := by
  cases h with
  | asking | offering => exact absurd hk (Nat.lt_irrefl 0)
  | awaiting hphase _ _ hnext hfinal hleft =>
    have hack := (Packet.passes_ack s.nextBlock).decode_take
    rw [show Packet.ack (.ofNat k) = .ack s.nextBlock from congrArg _ hnext.symm]
    obtain ⟨deeds, -, hpages, hstep⟩ := Run.step_shown hown hack host
    obtain ⟨payload, stream, hrest, hgive⟩ := @exists_give
      ⟨Session.advance { s with heardAt := host.clock + 1 }, { host with clock := host.clock + 1 },
        deeds⟩ hsound hsteady
    have hsends := hgive.sends hleft (Session.advance_ofNat hnext) hmore rfl fun _ => rfl
    have hrun := hstep _ _ (.of_phase hphase (.ack (.inl rfl)
      (hfinal.trans (decide_eq_false (Nat.ne_of_lt hmore))) hgive))
    rw [Run.rest_waiting rfl] at hrun
    rw [hrun]
    exact ⟨_, rfl, hsends.pages.trans (by rw [hpages]; rfl), hsends.deals, rfl, hrest, hown⟩

/-- A file of so many blocks of 512 bytes, and an empty one. -/
def zeros (k : Nat) : Node := { content := List.replicate (512 * k) 0 }

theorem blockCount_zeros (k : Nat) : blockCount (zeros k).content 512 = k + 1 := by
  rw [blockCount, zeros, List.length_replicate, Nat.mul_div_cancel_left k (by decide)]

theorem chunk_zeros {k : Nat} : (zeros k).chunk ≠ some 0 := (Option.some_ne_none 0).symm

/-- All its blocks can go out. -/
theorem upload_zeros {n : Nat} : ∀ k ≤ n, ∃ s deeds,
    Giving (upload (zeros n)) ask (zeros n) (.waiting s) deeds ∧
      World.pages deeds = pagesOf (zeros n).content 512 (k + 1) ∧
      s.Deals (zeros n).content (k + 1) ∧ s.blockSize = 512 ∧ s.stream.IsSound ∧
      s.isForeign server = false := by
  intro k
  induction k with
  | zero =>
    intro _
    have hgiving : Giving (upload (zeros n)) ask (zeros n) _ _ :=
      .start {} (.upload rfl rfl)
    obtain ⟨s, hstart, hasked, hphase, hrole, hstream, hown⟩ :
        ∃ s, (Run.start (upload (zeros n)) ask {}).1 = .waiting s ∧
          World.pages (Run.start (upload (zeros n)) ask {}).2.2 = [] ∧ s.phase = .requested ∧
          s.role = .upload ∧ s.stream = .reading .held (zeros n) ∧ s.isForeign server = false :=
      ⟨_, rfl, rfl, rfl, rfl, rfl, rfl⟩
    obtain ⟨deeds, -, hpages, hstep⟩ := Run.step_shown hown (Packet.passes_ack 0).decode_take {}
    obtain ⟨payload, stream, hrest, hgive⟩ := @exists_give
      ⟨Session.settled { s with heardAt := 1 } server.port {}, { clock := 1 }, deeds⟩
      (by exact hstream ▸ .reading rfl rfl) fun _ => rfl
    have hleft : s.stream.HasLeft (zeros n).content 0 := hstream ▸ .all chunk_zeros
    have hsends := @Give.sends_first _ _ _ hgive hleft rfl ⟨s, {}, deeds⟩ rfl
    have hrun := hstep _ _ (.of_phase hphase (.firstAck hrole hgive))
    rw [Run.rest_waiting rfl] at hrun
    rw [hstart] at hgiving
    have hfirst := hgiving.step (.datagram server (Packet.ack 0).encode) {}
    rw [hrun] at hfirst
    have hpinned : (s.pin server.port).isForeign server = false := Session.isForeign_pin hown
    refine ⟨_, _, hfirst, ?_, hsends.deals, rfl, hrest, hpinned⟩
    rw [World.pages_append, hasked]
    exact hsends.pages.trans (by rw [hpages]; rfl)
  | succ k ih =>
    intro hk
    obtain ⟨s, deeds, hgiving, hsent, hdeals, hsize, hsound, hown⟩ := ih (Nat.le_of_succ_le hk)
    obtain ⟨s', hrun, hpages, hdeals', hsize', hsound', hown'⟩ := next_of_ack hdeals
      (Nat.succ_pos k) (by rw [hsize, blockCount_zeros]; omega) hsound hown
      (fun _ => rfl : Host.Steady {})
    have hnext := hgiving.step (.datagram server (Packet.ack (.ofNat (k + 1))).encode) {}
    rw [hrun] at hnext
    refine ⟨s', _, hnext, ?_, hdeals', hsize'.trans hsize, hsound', hown'⟩
    rw [World.pages_append, hsent, hpages, hsize, ← pagesOf_succ]

/-- The acknowledgement of block 65535, when it comes again after the next block has gone out, makes
the sender report a violation. -/
theorem reports_lastOfLap :
    ∃ s deeds, Giving (upload (zeros 65536)) ask (zeros 65536) (.waiting s) deeds ∧
      World.pages deeds = pagesOf (zeros 65536).content 512 65536 ∧
      s.Gets (.datagram server (Packet.ack 65535).encode) (.ack 65535) ∧
      World.sent ((Run.waiting s).step (.datagram server (Packet.ack 65535).encode) {}).2.2 =
        [s.letter (.report .illegalOperation (Violation.message (.unsentBlock 65535 0)))] := by
  obtain ⟨s, deeds, hgiving, hpages, hdeals, -, -, hown⟩ :=
    @upload_zeros 65536 65535 (by decide)
  have hnext : s.nextBlock = 0 := hdeals.nextBlock.trans (by decide)
  have hack := (Packet.passes_ack 65535).decode_take
  refine ⟨s, deeds, hgiving, hpages, ⟨server, _, rfl, hown, hack⟩, ?_⟩
  have hahead : s.nextBlock < 65535 := hnext ▸ by decide
  rw [← hnext]
  refine Refuses.reports (.unsent (.inl (hdeals.awaitingAck (by decide))) hahead) hown hack rfl ?_
  exact @Host.Steady.canSend ⟨s, {}, []⟩ (fun _ => rfl) _ (hnext ▸ by decide)

end Giving

end TrivialFtp
