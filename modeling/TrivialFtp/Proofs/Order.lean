import TrivialFtp.Proofs.Pact

/-!
# Proofs: what is on its way, in order

When the datagrams of either side arrive in the order in which they were sent, those that are on
their way are about one block or the one before it.  From that it follows how sender and receiver
stand to each other, whatever is lost and whoever loses patience.

- `Pact.Stage`: the five ways in which a transfer can stand.
- `Pact.Stage.sender_step`, `Pact.Stage.receiver_step`: what either side does leads from one to
  another.
-/

namespace TrivialFtp

/-! ### Queues -/

/-- What is read of all datagrams in a queue. -/
def Says (P : Packet → Prop) (queue : List Bytes) : Prop :=
  ∀ bytes ∈ queue, Conduct.Tells P bytes

/-- What is read of a queue: first the one, and then the other. -/
def SaysThen (P Q : Packet → Prop) (queue : List Bytes) : Prop :=
  ∃ old new, queue = old ++ new ∧ Says P old ∧ Says Q new

/-- The datagram that an arrival is, if it is one. -/
def Arrival.bytes : Arrival → List Bytes
  | .datagram _ bytes => [bytes]
  | _ => []

/-- The datagrams sent among some deeds, as they are read. -/
def World.spoken (deeds : List Deed) : List Bytes := (World.sent deeds).map Datagram.bytes

section Queues

variable {P Q : Packet → Prop} {queue queue' : List Bytes} {deeds : List Deed} {arrival : Arrival}
  {p : Packet}

/-- A queue that says one thing says what follows from it. -/
theorem Says.mono (h : Says P queue) (himp : ∀ p, P p → Q p) : Says Q queue :=
  fun bytes hbytes => (h bytes hbytes).mono himp

/-- Two queues say something together if each of them does. -/
theorem says_append : Says P (queue ++ queue') ↔ Says P queue ∧ Says P queue' :=
  List.forall_mem_append

theorem Says.append (h : Says P queue) (h' : Says P queue') : Says P (queue ++ queue') :=
  says_append.2 ⟨h, h'⟩

/-- Part of a queue says what the whole does. -/
theorem Says.sublist (h : Says P queue) (hsub : queue'.Sublist queue) : Says P queue' :=
  fun bytes hbytes => h bytes (hsub.subset hbytes)

/-- What is read of an arrival is what it says. -/
theorem Says.reads (h : Says P arrival.bytes) (hread : arrival.Reads p) : P p := by
  obtain ⟨source, bytes, rfl, hread⟩ := hread
  exact h bytes List.mem_cons_self p hread

/-- A queue says what each of its datagrams tells. -/
theorem says_spoken (h : ∀ letter ∈ World.sent deeds, Conduct.Tells P letter.bytes) :
    Says P (World.spoken deeds) :=
  List.forall_mem_map.2 h

/-- A queue of one packet, however often, says that packet. -/
theorem says_repeated (hp : p.Passes) (h : ∀ letter ∈ World.sent deeds, letter.bytes = p.encode) :
    Says (· = p) (World.spoken deeds) :=
  says_spoken fun letter hletter => h letter hletter ▸ Conduct.tells_self hp

/-- A session that fails leaves reports, if anything. -/
theorem Run.Fails.reports {result : Run × Host × List Deed} (h : Run.Fails result) :
    Says (fun q => ∃ code message, q = .error code message) (World.spoken result.2.2) :=
  says_spoken fun letter hletter => Conduct.tells_report (h.sent letter hletter)

/-- A queue of the first kind has none of the second yet. -/
theorem Says.then_of_first (h : Says P queue) : SaysThen P Q queue :=
  ⟨queue, [], (List.append_nil queue).symm, h, fun _ hbytes => nomatch hbytes⟩

/-- A queue of the second kind has none of the first left. -/
theorem Says.then_of_second (h : Says Q queue) : SaysThen P Q queue :=
  ⟨[], queue, rfl, (fun _ hbytes => nomatch hbytes), h⟩

/-- What is said later goes to the end. -/
theorem SaysThen.append (h : SaysThen P Q queue) (h' : Says Q queue') :
    SaysThen P Q (queue ++ queue') := by
  obtain ⟨old, new, rfl, hold, hnew⟩ := h
  exact ⟨old, new ++ queue', List.append_assoc old new queue', hold, hnew.append h'⟩

/-- What is lost on the way changes no order. -/
theorem SaysThen.sublist (h : SaysThen P Q queue) (hsub : queue'.Sublist queue) :
    SaysThen P Q queue' := by
  obtain ⟨old, new, rfl, hold, hnew⟩ := h
  obtain ⟨old', new', rfl, hold', hnew'⟩ := List.sublist_append_iff.1 hsub
  exact ⟨old', new', rfl, hold.sublist hold', hnew.sublist hnew'⟩

/-- What arrives is the oldest. -/
theorem SaysThen.arrives (h : SaysThen P Q (arrival.bytes ++ queue)) :
    (Says P arrival.bytes ∧ SaysThen P Q queue) ∨ (Says Q arrival.bytes ∧ Says Q queue) := by
  cases arrival with
  | datagram source bytes =>
    obtain ⟨old, new, hqueue, hold, hnew⟩ := h
    rcases List.cons_eq_append_iff.1 hqueue with ⟨rfl, rfl⟩ | ⟨rest, rfl, rfl⟩
    · obtain ⟨hbytes, hrest⟩ := List.forall_mem_cons.1 hnew
      exact .inr ⟨List.forall_mem_singleton.2 hbytes, hrest⟩
    · obtain ⟨hbytes, hrest⟩ := List.forall_mem_cons.1 hold
      exact .inl ⟨List.forall_mem_singleton.2 hbytes, rest, new, rfl, hrest, hnew⟩
  | silence | fault => exact .inl ⟨(fun _ hbytes => nomatch hbytes), h⟩

end Queues

namespace Pact

/-! ### Stages -/

section Stages

variable (c : Pact)

/-- How a receiver stands to a sender who has said something that it has not taken. -/
inductive Behind (j : Nat) (p : Packet) : Run → Host → List Bytes → Prop where
  | ended {ending : Ending} {host : Host} {out : List Bytes} : Behind j p (.ended ending) host out
  | wants {i : Nat} {r : Session} {host : Host} {out : List Bytes} (hnext : j = i + 1)
      (hwants : c.Wants i r) (hcloses : c.Closes host) : Behind j p (.waiting r) host out
  /-- A client has heard nothing yet, so that all that was said to it is on its way. -/
  | asks {r : Session} {host : Host} {out : List Bytes} (hrole : c.role = .download)
      (hasks : c.Asks r) (hcloses : c.Closes host) (hout : Says (· = p) out)
      (hfirst : j = 0 ∨ j = 1 ∧ c.offer.options.isEmpty = true) : Behind j p (.waiting r) host out

/-- How a transfer stands, with what is on its way from the sender and back. -/
inductive Stage (sender receiver : Run) (host : Host) (out back : List Bytes) : Prop where
  /-- The sender has failed. -/
  | lost {ending : Ending} (hsender : sender = .ended ending)
      (hfailed : ∀ tally, ending ≠ .completed tally)
  /-- The sender is a client that has just asked. -/
  | asking {s : Session} (hsender : sender = .waiting s) (hrole : c.role = .upload)
      (hasks : c.Asks s) (hout : Says (·.number? = none) out)
      (hback : Says (fun q => q = c.offer.reply ∨ ∃ code message, q = .error code message) back)
      (hlevel : c.Level 0 false receiver host)
  /-- What the sender says last has not been taken. -/
  | coming {j : Nat} {p : Packet} {final : Bool} {s : Session} (hsender : sender = .waiting s)
      (hawaits : c.Awaits j p final s) (hout : SaysThen (Packet.Before j) (· = p) out)
      (hback : Says (Packet.Before j) back) (hbehind : c.Behind j p receiver host out)
  /-- It has been taken, but the sender does not know yet. -/
  | confirmed {j : Nat} {p : Packet} {final : Bool} {s : Session} (hsender : sender = .waiting s)
      (hawaits : c.Awaits j p final s) (hout : Says (Packet.About j) out)
      (hback : SaysThen (Packet.Before j) (Packet.About j) back)
      (hlevel : c.Level j final receiver host)
  /-- Everything has been taken, and the sender knows. -/
  | closed {ending : Ending} {tally : Tally} (hsender : sender = .ended ending)
      (hreceiver : receiver = .ended (.closing c.fault tally))

end Stages

variable {c : Pact} {i j : Nat} {p : Packet} {final : Bool} {s r : Session}
  {sender receiver : Run} {host host' : Host} {out out' back back' : List Bytes}
  {arrival : Arrival}

/-- How far a receiver has come is seen by its files alone. -/
theorem Level.congr (h : c.Level j final receiver host) (hsame : host.SameFiles host') :
    c.Level j final receiver host' := by
  cases h with
  | closed => exact .closed
  | ended => exact .ended
  | wants hwants hcloses => exact .wants hwants (hcloses.congr hsame)

/-- So is how far it is behind. -/
theorem Behind.congr (h : c.Behind j p receiver host out) (hsame : host.SameFiles host')
    (hsub : out'.Sublist out) : c.Behind j p receiver host' out' := by
  cases h with
  | ended => exact .ended
  | wants hnext hwants hcloses => exact .wants hnext hwants (hcloses.congr hsame)
  | asks hrole hasks hcloses hout hfirst =>
    exact .asks hrole hasks (hcloses.congr hsame) (hout.sublist hsub) hfirst

/-- Nothing changes when something is lost, or when something else happens at the receiver's. -/
theorem Stage.congr (h : c.Stage sender receiver host out back) (hsame : host.SameFiles host')
    (hout' : out'.Sublist out) (hback' : back'.Sublist back) :
    c.Stage sender receiver host' out' back' := by
  cases h with
  | lost hsender hfailed => exact .lost hsender hfailed
  | asking hsender hrole hasks hout hback hlevel =>
    exact .asking hsender hrole hasks (hout.sublist hout') (hback.sublist hback')
      (hlevel.congr hsame)
  | coming hsender hawaits hout hback hbehind =>
    exact .coming hsender hawaits (hout.sublist hout') (hback.sublist hback')
      (hbehind.congr hsame hout')
  | confirmed hsender hawaits hout hback hlevel =>
    exact .confirmed hsender hawaits (hout.sublist hout') (hback.sublist hback')
      (hlevel.congr hsame)
  | closed hsender hreceiver => exact .closed hsender hreceiver

/-! ### The sender's step -/

/-- A sender that has failed holds its receiver to nothing. -/
theorem Stage.of_failed {result : Run × Host × List Deed} (h : Run.Fails result) :
    c.Stage result.1 receiver host out back := by
  obtain ⟨ending, hended, hfailed⟩ := h.ended
  exact .lost hended hfailed

/-- A receiver that has said the same as ever is still behind. -/
theorem Behind.said (h : c.Behind j p receiver host out) (hout' : Says (· = p) out') :
    c.Behind j p receiver host (out ++ out') := by
  cases h with
  | ended => exact .ended
  | wants hnext hwants hcloses => exact .wants hnext hwants hcloses
  | asks hrole hasks hcloses hout hfirst =>
    exact .asks hrole hasks hcloses (hout.append hout') hfirst

/-- Whoever was level with a sender is behind it when it goes on. -/
theorem Level.behind (h : c.Level j false receiver host) :
    c.Behind (j + 1) p receiver host out := by
  cases h with
  | ended => exact .ended
  | wants hwants hcloses => exact .wants rfl hwants hcloses

/-- A queue that holds the answer of the server is a fair one for the client. -/
theorem fair_of_reply
    (h : Says (fun q => q = c.offer.reply ∨ ∃ code message, q = .error code message)
      arrival.bytes) : c.Fair arrival where
  offers := by
    intro granted hread
    rcases h.reads hread with hreply | ⟨code, message, he⟩
    · unfold Terms.Offer.reply at hreply
      split at hreply
      · exact nomatch hreply
      · exact Packet.optionAck.inj hreply
    · exact nomatch he
  plain := by
    intro p hread hnumber
    rcases h.reads hread with rfl | ⟨code, message, rfl⟩
    · unfold Terms.Offer.reply at hnumber
      split at hnumber
      · next hempty => exact hempty
      · exact absurd rfl hnumber
    · exact absurd rfl hnumber

/-- A client that has asked goes on when the server has answered. -/
theorem Answers.stage {result : Run × Host × List Deed} (h : c.Answers arrival result)
    (hrole : c.role = .upload) (hout : Says (·.number? = none) out)
    (hback : Says (fun q => q = c.offer.reply ∨ ∃ code message, q = .error code message) back)
    (hlevel : c.Level 0 false receiver host) :
    c.Stage result.1 receiver host (out ++ World.spoken result.2.2) back := by
  cases h with
  | stays hasks _ hsent =>
    refine .asking rfl hrole hasks (hout.append (says_spoken fun letter hletter => ?_)) hback hlevel
    exact hsent letter hletter ▸ Conduct.tells_unnumbered c.unnumbered
  | fails hfails => exact .of_failed hfails
  | granted hdownload | takes hdownload => exact nomatch hrole.symm.trans hdownload
  | gives _ hawaits hsent =>
    have hout : Says (Packet.Before 1) out := hout.mono fun _ h => .of_none h
    refine .coming rfl hawaits
      (hout.then_of_first.append (says_repeated hawaits.said.passes hsent)) ?_ hlevel.behind
    refine hback.mono ?_
    rintro q (rfl | ⟨code, message, rfl⟩)
    · exact about_reply
    · exact .of_none rfl

/-- A sender whose last packet has not been taken hears of earlier ones, and goes on with that
one. -/
theorem Sends.stage_coming {result : Run × Host × List Deed} (h : c.Sends j p final arrival result)
    (harrival : Says (Packet.Before j) arrival.bytes)
    (hout : SaysThen (Packet.Before j) (· = p) out) (hback : Says (Packet.Before j) back)
    (hbehind : c.Behind j p receiver host out) :
    c.Stage result.1 receiver host (out ++ World.spoken result.2.2) back := by
  cases h with
  | stays hawaits hsent =>
    have hsaid := says_repeated hawaits.said.passes hsent
    exact .coming rfl hawaits (hout.append hsaid) hback (hbehind.said hsaid)
  | fails hfails => exact .of_failed hfails
  | ends hread | gives hread => exact absurd rfl ((harrival.reads hread).ne rfl)

/-- A sender whose last packet has been taken goes on to the next one when it hears so. -/
theorem Sends.stage_confirmed {result : Run × Host × List Deed}
    (h : c.Sends j p final arrival result) (hout : Says (Packet.About j) out)
    (hback : SaysThen (Packet.Before j) (Packet.About j) (arrival.bytes ++ back))
    (hlevel : c.Level j final receiver host) :
    c.Stage result.1 receiver host (out ++ World.spoken result.2.2) back := by
  have hsaid : ∀ {s : Session} {deeds : List Deed}, c.Awaits j p final s →
      (∀ letter ∈ World.sent deeds, letter.bytes = p.encode) →
      Says (Packet.About j) (World.spoken deeds) := fun hawaits hsent =>
    (says_repeated hawaits.said.passes hsent).mono fun q hq => hq ▸ hawaits.said.about
  -- What is read is about a packet before, or it is about the last one.
  rcases hback.arrives with ⟨harrival, hback⟩ | ⟨harrival, hback⟩
  · cases h with
    | stays hawaits hsent =>
      exact .confirmed rfl hawaits (hout.append (hsaid hawaits hsent)) hback hlevel
    | fails hfails => exact .of_failed hfails
    | ends hread | gives hread => exact absurd rfl ((harrival.reads hread).ne rfl)
  · cases h with
    | stays hawaits hsent =>
      exact .confirmed rfl hawaits (hout.append (hsaid hawaits hsent)) hback.then_of_second hlevel
    | fails hfails => exact .of_failed hfails
    | ends _ hfinal hended =>
      obtain ⟨ending, hended⟩ := hended
      subst hfinal
      cases hlevel with
      | closed => exact .closed hended rfl
    | gives _ hfinal hgiven hsent =>
      subst hfinal
      have hout : Says (Packet.Before (j + 1)) out := hout
      exact .coming rfl hgiven
        (hout.then_of_first.append (says_repeated hgiven.said.passes hsent)) hback hlevel.behind

/-- **The sender's step.**  It goes on only when what it said last has been taken. -/
theorem Stage.sender_step (h : c.Stage sender receiver host out (arrival.bytes ++ back))
    (own : Host) :
    c.Stage (sender.step arrival own).1 receiver host
      (out ++ World.spoken (sender.step arrival own).2.2) back := by
  cases h with
  | lost hsender hfailed =>
    subst hsender
    exact .lost rfl hfailed
  | closed hsender hreceiver =>
    subst hsender
    exact .closed rfl hreceiver
  | @asking s hsender hrole hasks hout hback hlevel =>
    subst hsender
    obtain ⟨harrival, hback⟩ := says_append.1 hback
    have hanswers : c.Answers arrival ((Run.waiting s).step arrival own) :=
      hasks.begins (fun hdownload => nomatch hrole.symm.trans hdownload) (fair_of_reply harrival)
    exact hanswers.stage hrole hout hback hlevel
  | coming hsender hawaits hout hback hbehind =>
    subst hsender
    obtain ⟨harrival, hback⟩ := says_append.1 hback
    exact (hawaits.sends arrival own).stage_coming harrival hout hback hbehind
  | confirmed hsender hawaits hout hback hlevel =>
    subst hsender
    exact (hawaits.sends arrival own).stage_confirmed hout hback hlevel

/-! ### The receiver's step -/

/-- What is said in answer to a block is about that block. -/
theorem Taken.about {payload : Bytes} {result : Run × Host × List Deed}
    (h : c.Taken j payload result) : Says (Packet.About j) (World.spoken result.2.2) := by
  refine says_spoken fun letter hletter => ?_
  rcases h.sent letter hletter with hack | hreport
  · exact hack ▸ (Conduct.tells_self (Packet.passes_ack _)).mono fun q hq => hq ▸ about_ack j
  · refine (Conduct.tells_report hreport).mono ?_
    rintro q ⟨code, message, rfl⟩
    exact .of_none rfl

/-- A receiver that has failed has said nothing of any block. -/
theorem says_of_failed {result : Run × Host × List Deed} (h : Run.Fails result) :
    Says (·.number? = none) (World.spoken result.2.2) := by
  refine h.reports.mono ?_
  rintro q ⟨code, message, rfl⟩
  rfl

/-- A receiver that has not taken anything says what it said before, if it hears only of blocks
about which it has said so. -/
theorem says_echo {deeds : List Deed} (hheard : ∀ n payload, arrival.Reads (.data n payload) →
      n ≠ .ofNat (i + 1) → n = .ofNat i)
    (hsent : ∀ letter ∈ World.sent deeds, letter.bytes = (c.echo i).encode ∨
      ∃ n payload, arrival.Reads (.data n payload) ∧ n ≠ .ofNat (i + 1) ∧
        letter.bytes = (Packet.ack n).encode) :
    Says (Packet.About i) (World.spoken deeds) := by
  refine says_spoken fun letter hletter => ?_
  rcases hsent letter hletter with hecho | ⟨n, payload, hread, hne, hack⟩
  · obtain ⟨hpasses, habout⟩ := c.echo_passes i
    exact hecho ▸ (Conduct.tells_self hpasses).mono fun q hq => hq ▸ habout
  · obtain rfl := hheard n payload hread hne
    exact hack ▸ (Conduct.tells_self (Packet.passes_ack _)).mono fun q hq => hq ▸ about_ack i

/-- What was said last has arrived, and is taken. -/
theorem Awaits.confirmed {payload : Bytes} {result : Run × Host × List Deed}
    (hawaits : c.Awaits j (.data (.ofNat j) payload) final s)
    (htaken : c.Taken j payload result) (hout : Says (· = .data (.ofNat j) payload) out)
    (hback : Says (Packet.Before j) back) :
    c.Stage (.waiting s) result.1 result.2.1 out (back ++ World.spoken result.2.2) := by
  have hlevel : c.Level j final result.1 result.2.1 := by
    have hsaid := hawaits.said
    cases hsaid with
    | gives => exact htaken.level
  exact .confirmed rfl hawaits (hout.mono fun q hq => hq ▸ hawaits.said.about)
    (hback.then_of_first.append htaken.about) hlevel

/-- A queue that holds the first packet of the sender is a fair one for a client that receives. -/
theorem fair_of_said (hsaid : c.Said j p final) (hfirst : j = 0 ∨ j = 1 ∧
      c.offer.options.isEmpty = true) (h : Says (· = p) arrival.bytes) : c.Fair arrival where
  offers := by
    intro granted hread
    obtain rfl := h.reads hread
    cases hsaid with
    | offers => rfl
  plain := by
    intro q hread hnumber
    obtain rfl := h.reads hread
    cases hsaid with
    | offers => exact absurd rfl hnumber
    | gives => exact (hfirst.resolve_left (Nat.succ_ne_zero _)).2

/-- A receiver that fails says nothing of any block, and is behind for good. -/
theorem Stage.of_receiver_failed {result : Run × Host × List Deed} (h : Run.Fails result)
    (hawaits : c.Awaits j p final s) (hout : SaysThen (Packet.Before j) (· = p) out)
    (hback : Says (Packet.Before j) back) :
    c.Stage (.waiting s) result.1 result.2.1 out (back ++ World.spoken result.2.2) := by
  obtain ⟨ending, hended, -⟩ := h.ended
  refine .coming rfl hawaits hout (hback.append ((says_of_failed h).mono fun _ h => .of_none h)) ?_
  rw [hended]
  exact .ended

/-- A receiver that waits for a block takes it when it hears it, and says nothing new before. -/
theorem Receives.stage {result : Run × Host × List Deed} (h : c.Receives i arrival result)
    (hawaits : c.Awaits (i + 1) p final s)
    (hout : SaysThen (Packet.Before (i + 1)) (· = p) (arrival.bytes ++ out))
    (hback : Says (Packet.Before (i + 1)) back) :
    c.Stage (.waiting s) result.1 result.2.1 out (back ++ World.spoken result.2.2) := by
  -- What is read is about the block before, or it is what was said last.
  rcases hout.arrives with ⟨harrival, hout⟩ | ⟨harrival, hout⟩
  · cases h with
    | stays hwants hcloses hsent =>
      refine .coming rfl hawaits hout (hback.append (says_echo ?_ hsent))
        (.wants rfl hwants hcloses)
      exact fun n payload hread _ => harrival.reads hread n rfl
    | fails hfails => exact .of_receiver_failed hfails hawaits hout hback
    | takes hread => exact absurd rfl ((harrival.reads hread).ne rfl)
  · cases h with
    | stays hwants hcloses hsent =>
      refine .coming rfl hawaits hout.then_of_second (hback.append (says_echo ?_ hsent))
        (.wants rfl hwants hcloses)
      intro n payload hread hne
      obtain rfl := harrival.reads hread
      exact absurd (hawaits.said.about n rfl) hne
    | fails hfails => exact .of_receiver_failed hfails hawaits hout.then_of_second hback
    | takes hread htaken =>
      obtain rfl := harrival.reads hread
      exact hawaits.confirmed htaken hout hback

/-- A client that has asked hears the first packet of the server, which is a grant or block 1. -/
theorem Answers.stage_behind {result : Run × Host × List Deed} (h : c.Answers arrival result)
    (hawaits : c.Awaits j p final s) (hrole : c.role = .download)
    (hfirst : j = 0 ∨ j = 1 ∧ c.offer.options.isEmpty = true)
    (harrival : Says (· = p) arrival.bytes) (hout : Says (· = p) out)
    (hback : Says (Packet.Before j) back) :
    c.Stage (.waiting s) result.1 result.2.1 out (back ++ World.spoken result.2.2) := by
  cases h with
  | stays hasks hcloses hsent =>
    refine .coming rfl hawaits hout.then_of_second (hback.append ?_)
      (.asks hrole hasks (hcloses hrole) hout hfirst)
    refine says_spoken fun letter hletter => ?_
    exact hsent letter hletter ▸
      (Conduct.tells_unnumbered c.unnumbered).mono fun _ h => .of_none h
  | fails hfails => exact .of_receiver_failed hfails hawaits hout.then_of_second hback
  | granted _ hread hwants hcloses hsent =>
    obtain rfl := harrival.reads hread
    have hnext := hawaits.said
    cases hnext
    refine .confirmed rfl hawaits (hout.mono fun q hq => hq ▸ .of_none rfl)
      (hback.then_of_first.append ?_) (.wants hwants hcloses)
    exact (says_repeated (Packet.passes_ack 0) hsent).mono fun q hq => hq ▸ about_ack 0
  | takes _ hread htaken =>
    obtain rfl := harrival.reads hread
    obtain rfl : j = 1 := by
      refine (hfirst.resolve_left ?_).1
      rintro rfl
      exact nomatch hawaits.said
    exact hawaits.confirmed htaken hout hback
  | gives hupload => exact nomatch hrole.symm.trans hupload

/-- A receiver that was behind has heard something. -/
theorem Behind.step (hawaits : c.Awaits j p final s)
    (hout : SaysThen (Packet.Before j) (· = p) (arrival.bytes ++ out))
    (hback : Says (Packet.Before j) back)
    (hbehind : c.Behind j p receiver host (arrival.bytes ++ out)) :
    c.Stage (.waiting s) (receiver.step arrival host).1 (receiver.step arrival host).2.1 out
      (back ++ World.spoken (receiver.step arrival host).2.2) := by
  cases hbehind with
  | ended =>
    have hout : SaysThen (Packet.Before j) (· = p) out :=
      hout.sublist (List.sublist_append_right _ _)
    exact .coming rfl hawaits hout (hback.append fun _ hbytes => nomatch hbytes) .ended
  | wants hnext hwants hcloses =>
    subst hnext
    exact (hwants.receives hcloses arrival).stage hawaits hout hback
  | asks hrole hasks hcloses hsaid hfirst =>
    obtain ⟨harrival, hsaid⟩ := says_append.1 hsaid
    have hanswers := hasks.begins (fun _ => hcloses) (fair_of_said hawaits.said hfirst harrival)
    exact hanswers.stage_behind hawaits hrole hfirst harrival hsaid hback

/-- What a receiver may say that is level with a sender. -/
def Echoes (c : Pact) (j : Nat) (arrival : Arrival) (q : Packet) : Prop :=
  q = c.echo j ∨ (∃ n payload, arrival.Reads (.data n payload) ∧ q = .ack (.ofNat j)) ∨
    ∃ code message, q = .error code message

/-- A receiver that was level with a sender has heard something. -/
theorem Level.step (hlevel : c.Level j final receiver host)
    (harrival : Says (Packet.About j) arrival.bytes) :
    c.Level j final (receiver.step arrival host).1 (receiver.step arrival host).2.1 ∧
      Says (c.Echoes j arrival) (World.spoken (receiver.step arrival host).2.2) := by
  cases hlevel with
  | closed => exact ⟨.closed, fun _ hbytes => nomatch hbytes⟩
  | ended => exact ⟨.ended, fun _ hbytes => nomatch hbytes⟩
  | @wants r _ hwants hcloses =>
    have hreceives := hwants.receives hcloses arrival
    generalize (Run.waiting r).step arrival host = result at hreceives
    cases hreceives with
    | stays hwants hcloses hsent =>
      refine ⟨.wants hwants hcloses, says_spoken fun letter hletter => ?_⟩
      rcases hsent letter hletter with hecho | ⟨n, payload, hread, -, hack⟩
      · exact hecho ▸ (Conduct.tells_self (c.echo_passes j).1).mono fun _ => .inl
      · obtain rfl := harrival.reads hread n rfl
        exact hack ▸ (Conduct.tells_self (Packet.passes_ack _)).mono
          fun _ hq => .inr (.inl ⟨_, payload, hread, hq⟩)
    | fails hfails =>
      obtain ⟨ending, hended, -⟩ := hfails.ended
      exact ⟨hended ▸ .ended, hfails.reports.mono fun _ hq => .inr (.inr hq)⟩
    | takes hread => exact absurd (harrival.reads hread _ rfl) (Packet.ofNat_succ_ne j)

/-- **The receiver's step.**  The sender is told of what has been taken, and of nothing else. -/
theorem Stage.receiver_step (h : c.Stage sender receiver host (arrival.bytes ++ out) back) :
    c.Stage sender (receiver.step arrival host).1 (receiver.step arrival host).2.1 out
      (back ++ World.spoken (receiver.step arrival host).2.2) := by
  cases h with
  | lost hsender hfailed => exact .lost hsender hfailed
  | asking hsender hrole hasks hout hback hlevel =>
    obtain ⟨harrival, hout⟩ := says_append.1 hout
    obtain ⟨hlevel, hsaid⟩ := hlevel.step (harrival.mono fun _ h => .of_none h)
    refine .asking hsender hrole hasks hout (hback.append (hsaid.mono ?_)) hlevel
    rintro q (hecho | ⟨n, payload, hread, -⟩ | hreport)
    · exact .inl (hecho.trans (first_of_upload hrole))
    · exact absurd (harrival.reads hread) (Option.some_ne_none n)
    · exact .inr hreport
  | coming hsender hawaits hout hback hbehind =>
    rw [hsender]
    exact hbehind.step hawaits hout hback
  | @confirmed j _ _ _ hsender hawaits hout hback hlevel =>
    obtain ⟨harrival, hout⟩ := says_append.1 hout
    obtain ⟨hlevel, hsaid⟩ := hlevel.step harrival
    refine .confirmed hsender hawaits hout (hback.append (hsaid.mono ?_)) hlevel
    rintro q (rfl | ⟨_, _, -, rfl⟩ | ⟨_, _, rfl⟩)
    · exact (c.echo_passes j).2
    · exact about_ack j
    · exact .of_none rfl
  | closed hsender hreceiver =>
    rw [hreceiver]
    exact .closed hsender rfl

end Pact

end TrivialFtp
