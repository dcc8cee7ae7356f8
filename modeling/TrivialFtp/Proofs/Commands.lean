import TrivialFtp.Command.Run
import TrivialFtp.Proofs.Negotiation
import TrivialFtp.Proofs.Responses

/-!
# Proofs: what a command does to its host

What is wrong with a command line is found before the host is touched.  A client's command that is
not refused sends one request, with the options it was given and no others.  How the arguments are
parsed makes no difference: all of this holds with any parser.

- `Command.perform_comes`: everything that a task can come to.
- `Command.carryOut_careful`: refused commands have no effect, and requests ask for what was given.
- `Command.put_tells`: the size that an upload tells.
-/

namespace TrivialFtp.Command

/-! ### What is wrong with a task -/

/-- The pace that a task is given. -/
def Task.pace : Task → Pace
  | .get common _ _ | .put common _ _ => common.pace
  | .serve _ _ pace _ => pace

/-- The block size that a task is given. -/
def Task.blockSize? : Task → Option Nat
  | .get common _ _ | .put common _ _ => common.blockSize
  | .serve .. => none

/-- There is something wrong with a task, and a refusal that says so. -/
inductive Faulty (host : Host) : Task → Refusal → Prop where
  | noTimeout {task : Task} (hzero : task.pace.timeout = 0) : Faulty host task .noTimeout
  | blockSize {task : Task} {n : Nat} (hgiven : task.blockSize? = some n)
      (hrange : n < 8 ∨ 65464 < n) :
    Faulty host task (.blockSizeOutOfRange n)
  /-- No name is given for the upload, and its source lends it none. -/
  | noName {common : Common} {source : String}
      (hname : ∀ name, Path.fileName? source = some name → name = standardPath) :
    Faulty host (.put common source none) .noRemoteName
  | noRoot {address root : String} {pace : Pace} {reportSize : Bool}
      (hroot : root ∉ host.directories) :
    Faulty host (.serve address root pace reportSize) (.noRoot root)

/-- There is nothing wrong with a task. -/
def Sound (host : Host) (task : Task) : Prop := ∀ refusal, ¬ Faulty host task refusal

/-- The options that a client requests: the block size it was given and the size it tells. -/
def wanted (common : Common) (size : Option Nat) : List (String × String) :=
  (common.blockSize.map fun n => (Terms.blockSizeName, Numeral.write n)).toList ++
    (size.map fun n => (Terms.transferSizeName, Numeral.write n)).toList

section Checks

variable (host : Host) (common : Common) (source : String) (remote : Option String)

/-- A pace gives a timing unless its timeout is 0. -/
theorem timing_cases (pace : Pace) :
    pace.timeout = 0 ∧ timing pace = .error .noTimeout ∨
      pace.timeout ≠ 0 ∧ ∃ t, timing pace = .ok t := by
  unfold timing
  split
  · next hzero => exact .inl ⟨hzero, rfl⟩
  · next hzero => exact .inr ⟨hzero, _, rfl⟩

/-- A block size out of range is refused; otherwise the options are those that are wanted. -/
theorem requestOptions_cases (size : Option Nat) :
    (∃ n, common.blockSize = some n ∧ (n < 8 ∨ 65464 < n) ∧
      requestOptions common size = .error (.blockSizeOutOfRange n)) ∨
    (∀ n, common.blockSize = some n → 8 ≤ n ∧ n ≤ 65464) ∧
      ∃ options, requestOptions common size = .ok options ∧
        options.entries = wanted common size := by
  unfold requestOptions wanted
  cases hgiven : common.blockSize with
  | none =>
    right
    constructor
    · intro n h
      cases h
    · cases size <;> exact ⟨_, rfl, rfl⟩
  | some n =>
    by_cases hrange : 8 ≤ n ∧ n ≤ 65464
    · have hsize : BlockSize.ofNat? n = some ⟨n, hrange.1, hrange.2⟩ := dif_pos hrange
      right
      refine ⟨fun m hm => Option.some.inj hm ▸ hrange, ?_⟩
      simp only [hsize]
      cases size with
      | none => exact ⟨_, rfl, rfl⟩
      | some m =>
        refine ⟨_, rfl, ?_⟩
        have hother : ¬ Letters.Same Terms.blockSizeName Terms.transferSizeName :=
          fun h => Terms.not_same_names (Eq.symm h)
        exact (if_neg hother).trans rfl
    · have hsize : BlockSize.ofNat? n = none := dif_neg hrange
      left
      refine ⟨n, rfl, by omega, ?_⟩
      simp only [hsize]
      rfl

/-- A source that lends no name, or only that of the standard input, leaves an upload nameless. -/
theorem remoteName_of_nameless
    (h : ∀ name, Path.fileName? source = some name → name = standardPath) :
    remoteName source none = .error .noRemoteName := by
  unfold remoteName
  cases hname : Path.fileName? source with
  | none => rfl
  | some name => simp [h name hname, Option.filter]

/-- An upload has a name if it is given one or its source lends it one. -/
theorem remoteName_cases :
    (remote = none ∧ ∀ name, Path.fileName? source = some name → name = standardPath) ∨
      ∃ name, remoteName source remote = .ok name := by
  cases remote with
  | some name => exact .inr ⟨name, rfl⟩
  | none =>
    by_cases h : ∀ name, Path.fileName? source = some name → name = standardPath
    · exact .inl ⟨rfl, h⟩
    · right
      push Not at h
      obtain ⟨name, hname, hne⟩ := h
      exact ⟨name, by simp [remoteName, hname, hne, Option.filter]⟩

end Checks

/-! ### What a task comes to -/

/-- A transfer has begun. -/
def launched (host : Host) (transfer : Host → Run × Host × List Deed) :
    EStateM.Result Refusal Host Begun :=
  .ok ({ host := (transfer host).2.1, client := some (transfer host).1 }, (transfer host).2.2)
    (transfer host).2.1

/-- What a task comes to.  A refusal leaves the host as it was, and so does everything that comes
before a file is made or a transfer begins. -/
inductive Comes (verbose : Bool) (host : Host) : Task → EStateM.Result Refusal Host Begun → Prop
    where
  | refused {task : Task} {refusal : Refusal} (hfaulty : Faulty host task refusal) :
    Comes verbose host task (.error refusal host)
  | noTarget {common : Common} {remote : String} {target : Option String} {fault : Fault}
      (hsound : Sound host (.get common remote target))
      (hsink : Stream.sink host (target.getD remote) = .error fault) :
    Comes verbose host (.get common remote target)
      (.error (.noTarget (target.getD remote) fault) host)
  | noSource {common : Common} {source : String} {remote : Option String} {fault : Fault}
      (hsound : Sound host (.put common source remote))
      (hsource : Stream.source host source = .error fault) :
    Comes verbose host (.put common source remote) (.error (.noSource source fault) host)
  | gets {common : Common} {remote : String} {target : Option String} {timing : Timing}
      {options : Options} {sink : Stream} {made : Host}
      (hsound : Sound host (.get common remote target))
      (htiming : Command.timing common.pace = .ok timing)
      (hoptions : options.entries = wanted common (if common.withSize then some 0 else none))
      (hsink : Stream.sink host (target.getD remote) = .ok (sink, made)) :
    Comes verbose host (.get common remote target)
      (launched made ((client common timing verbose).download remote sink options))
  | puts {common : Common} {source : String} {remote : Option String} {name : String}
      {timing : Timing} {options : Options} {stream : Stream}
      (hsound : Sound host (.put common source remote))
      (hname : remoteName source remote = .ok name)
      (htiming : Command.timing common.pace = .ok timing)
      (hoptions : options.entries =
        wanted common (if common.withSize then some (sizeOf host source) else none))
      (hsource : Stream.source host source = .ok stream) :
    Comes verbose host (.put common source remote)
      (launched host ((client common timing verbose).upload name stream options))
  | serves {address root : String} {pace : Pace} {reportSize : Bool} {timing : Timing}
      {world : World} (hsound : Sound host (.serve address root pace reportSize))
      (htiming : Command.timing pace = .ok timing)
      (hworld : world = World.withServer { host }
        { address, service := { root, reportSize }, timing, shutdown := .interrupt }) :
    Comes verbose host (.serve address root pace reportSize) (.ok (world, []) world.host)

section Comes

variable {α β : Type} (verbose : Bool) (host : Host)

/-- A check that is passed changes nothing, and one that is not ends the job on the host as it was.
-/
theorem run_ofExcept_bind (x : Except Refusal α) (k : α → Job β) :
    (ofExcept x >>= k).run host =
      match x with
      | .ok a => (k a).run host
      | .error refusal => .error refusal host := by
  cases x <;> rfl

theorem run_getThe_bind (k : Host → Job β) :
    (getThe Host >>= k).run host = (k host).run host := rfl

/-- A sink is opened on the host, or the command is refused for the path. -/
theorem run_openSink (path : String) :
    (openSink path).run host =
      match Stream.sink host path with
      | .ok (sink, made) => .ok sink made
      | .error fault => .error (.noTarget path fault) host := by
  unfold openSink
  rw [run_getThe_bind]
  cases Stream.sink host path <;> rfl

/-- A source is opened and the host is left alone. -/
theorem run_openSource (path : String) :
    (openSource path).run host =
      match Stream.source host path with
      | .ok stream => .ok stream host
      | .error fault => .error (.noSource path fault) host := by
  unfold openSource
  rw [run_getThe_bind]
  cases Stream.source host path <;> rfl

/-- Get checks the timeout and the block size before it touches its target. -/
theorem get_comes (common : Common) (remote : String) (target : Option String) :
    Comes verbose host (.get common remote target)
      ((get common remote target verbose).run host) := by
  unfold get
  rw [run_ofExcept_bind]
  rcases timing_cases common.pace with ⟨hzero, htiming⟩ | ⟨hzero, timing, htiming⟩ <;> rw [htiming]
  · exact .refused (.noTimeout hzero)
  dsimp only
  rw [run_ofExcept_bind]
  rcases requestOptions_cases common (if common.withSize then some 0 else none) with
    ⟨n, hgiven, hrange, hoptions⟩ | ⟨hrange, options, hoptions, hentries⟩ <;> rw [hoptions]
  · exact .refused (.blockSize hgiven hrange)
  have hsound : Sound host (.get common remote target) := by
    rintro _ (hfault | ⟨hgiven, hout⟩)
    · exact hzero hfault
    · have := hrange _ hgiven
      omega
  dsimp only
  rw [EStateM.run_bind, run_openSink]
  cases hsink : Stream.sink host (target.getD remote) with
  | error fault => exact .noTarget hsound hsink
  | ok opened => exact .gets hsound htiming hentries hsink

/-- Put checks the name, the timeout and the block size before it opens its source. -/
theorem put_comes (common : Common) (source : String) (remote : Option String) :
    Comes verbose host (.put common source remote)
      ((put common source remote verbose).run host) := by
  unfold put
  rw [run_ofExcept_bind]
  rcases remoteName_cases source remote with ⟨rfl, hnameless⟩ | ⟨name, hname⟩
  · rw [remoteName_of_nameless source hnameless]
    exact .refused (.noName hnameless)
  rw [hname]
  dsimp only
  rw [run_getThe_bind, run_ofExcept_bind]
  rcases timing_cases common.pace with ⟨hzero, htiming⟩ | ⟨hzero, timing, htiming⟩ <;> rw [htiming]
  · exact .refused (.noTimeout hzero)
  dsimp only
  rw [run_ofExcept_bind]
  rcases requestOptions_cases common (if common.withSize then some (sizeOf host source) else none)
    with ⟨n, hgiven, hrange, hoptions⟩ | ⟨hrange, options, hoptions, hentries⟩ <;> rw [hoptions]
  · exact .refused (.blockSize hgiven hrange)
  have hsound : Sound host (.put common source remote) := by
    rintro _ (hfault | ⟨hgiven, hout⟩ | hnameless)
    · exact hzero hfault
    · have := hrange _ hgiven
      omega
    · cases (remoteName_of_nameless source hnameless).symm.trans hname
  dsimp only
  rw [EStateM.run_bind, run_openSource]
  cases hsource : Stream.source host source with
  | error fault => exact .noSource hsound hsource
  | ok stream => exact .puts hsound hname htiming hentries hsource

/-- Serve checks the timeout and the root before it takes a port. -/
theorem serve_comes (address root : String) (pace : Pace) (reportSize : Bool) :
    Comes verbose host (.serve address root pace reportSize)
      ((serve address root pace reportSize).run host) := by
  unfold serve
  rw [run_ofExcept_bind]
  rcases timing_cases pace with ⟨hzero, htiming⟩ | ⟨hzero, timing, htiming⟩ <;> rw [htiming]
  · exact .refused (.noTimeout hzero)
  dsimp only
  rw [run_getThe_bind]
  by_cases hroot : root ∈ host.directories
  · have hsound : Sound host (.serve address root pace reportSize) := by
      rintro _ (hfault | ⟨hgiven, -⟩ | - | habsent)
      · exact hzero hfault
      · cases hgiven
      · exact habsent hroot
    rw [if_neg (not_not_intro hroot)]
    exact .serves hsound htiming rfl
  · rw [if_pos hroot]
    exact .refused (.noRoot hroot)

/-- Nothing else comes of a task. -/
theorem perform_comes (task : Task) :
    Comes verbose host task ((perform verbose task).run host) := by
  cases task with
  | get common remote target => exact get_comes verbose host common remote target
  | put common source remote => exact put_comes verbose host common source remote
  | serve address root pace reportSize =>
    exact serve_comes verbose host address root pace reportSize

end Comes

/-! ### What a server makes of the options -/

section Wanted

variable {common : Common} {size : Option Nat} {options : Options}

/-- What is wanted is a block size or a size to be told. -/
theorem mem_wanted {e : String × String} (h : e ∈ wanted common size) :
    e.1 = Terms.blockSizeName ∧ (∃ n, common.blockSize = some n ∧ e.2 = Numeral.write n) ∨
      e.1 = Terms.transferSizeName ∧ ∃ n, e.2 = Numeral.write n := by
  rcases List.mem_append.1 h with h | h <;> rw [Option.mem_toList, Option.map_eq_some_iff] at h <;>
    obtain ⟨n, hn, rfl⟩ := h
  · exact .inl ⟨rfl, n, hn, rfl⟩
  · exact .inr ⟨rfl, n, rfl⟩

/-- The block size is requested as it was given. -/
theorem get?_blockSize_wanted (hoptions : options.entries = wanted common size) :
    options.get? Terms.blockSizeName = common.blockSize.map Numeral.write := by
  cases hgiven : common.blockSize with
  | some n =>
    have hmem : (Terms.blockSizeName, Numeral.write n) ∈ options.entries := by
      simp [hoptions, wanted, hgiven]
    exact Options.get?_of_mem hmem (Terms.same_self _)
  | none =>
    refine Options.get?_of_not_contains fun e he hsame => ?_
    rcases mem_wanted (hoptions ▸ he) with ⟨-, n, hn, -⟩ | ⟨hname, -⟩
    · cases hgiven.symm.trans hn
    · exact Terms.not_same_names (hname ▸ hsame)

/-- No option that is wanted holds a null character. -/
theorem clean_wanted (hoptions : options.entries = wanted common size) :
    ∀ s ∈ options.texts, '\x00' ∉ s.toList := by
  intro s hs
  obtain ⟨e, he, hse⟩ := List.mem_flatMap.1 hs
  obtain rfl | rfl : s = e.1 ∨ s = e.2 := by simpa using hse
  · rcases mem_wanted (hoptions ▸ he) with ⟨hname, -⟩ | ⟨hname, -⟩ <;> rw [hname] <;> decide
  · rcases mem_wanted (hoptions ▸ he) with ⟨-, n, -, hvalue⟩ | ⟨-, n, hvalue⟩ <;> rw [hvalue] <;>
      exact Terms.nul_not_mem_write n

/-- A numeral in range is read as the block size it stands for. -/
theorem clamp_write {n : Nat} (hrange : 8 ≤ n ∧ n ≤ 65464) :
    (Numeral.readTrimmed? Numeral.word64 (Numeral.write n)).map BlockSize.clamp =
      some ⟨n, hrange.1, hrange.2⟩ := by
  have hword : n < Numeral.word64 := Nat.lt_of_le_of_lt hrange.2 (by decide)
  rw [Numeral.readTrimmed?_write, Numeral.read?_write hword, Option.map_some]
  exact congrArg some (BlockSize.clamp_size ⟨n, hrange.1, hrange.2⟩)

/-- A server grants a block size in range as it stands. -/
theorem answer_blockSize {n : Nat} (hrange : 8 ≤ n ∧ n ≤ 65464) (sizeReply : Option Nat) :
    Terms.answer sizeReply (Terms.blockSizeName, Numeral.write n) =
      some (Terms.blockSizeName, Numeral.write n) := by
  have htext := congrArg (Option.map fun b => (Terms.blockSizeName, BlockSize.text b))
    (clamp_write hrange)
  rw [Option.map_map] at htext
  exact (if_pos (Terms.same_self _)).trans htext

theorem answer_transferSize (value : String) (sizeReply : Option Nat) :
    Terms.answer sizeReply (Terms.transferSizeName, value) =
      some (Terms.transferSizeName, Terms.sizeText sizeReply) := by
  unfold Terms.answer
  rw [if_neg Terms.not_same_names, if_pos (Terms.same_self _)]

/-- A block size in range is neither raised nor lowered, and every option is granted. -/
theorem offer_wanted (hoptions : options.entries = wanted common size)
    (hrange : ∀ n, common.blockSize = some n → 8 ≤ n ∧ n ≤ 65464) (sizeReply : Option Nat) :
    (Terms.offer options sizeReply).terms.blockSize.size = common.blockSize.getD 512 ∧
      (Terms.offer options sizeReply).options.get? Terms.blockSizeName =
        common.blockSize.map Numeral.write ∧
      (Terms.offer options sizeReply).options.names = options.names := by
  refine ⟨?_, ?_, ?_⟩
  · rw [Terms.blockSize_offer, get?_blockSize_wanted hoptions]
    cases hgiven : common.blockSize with
    | none => rfl
    | some n =>
      rw [Option.map_some, Option.bind_some, clamp_write (hrange n hgiven)]
      rfl
  · rw [Terms.get?_blockSize_offer, get?_blockSize_wanted hoptions]
    cases hgiven : common.blockSize with
    | none => rfl
    | some n =>
      have htext := congrArg (Option.map BlockSize.text) (clamp_write (hrange n hgiven))
      rw [Option.map_map] at htext
      rw [Option.map_some, Option.bind_some]
      exact htext
  · rw [Options.names, Options.names, Terms.offer_entries, hoptions, wanted,
      List.filterMap_append, List.map_append, List.map_append]
    congr 1
    · cases hgiven : common.blockSize with
      | none => rfl
      | some n => simp [answer_blockSize (hrange n hgiven)]
    · cases size with
      | none => rfl
      | some n => simp [answer_transferSize]

end Wanted

end TrivialFtp.Command

namespace TrivialFtp

/-- Options with a value in them are not empty. -/
theorem Options.isEmpty_of_get? {options : Options} {name value : String}
    (h : options.get? name = some value) : options.isEmpty = false := by
  unfold get? at h
  unfold isEmpty
  cases hentries : options.entries with
  | nil =>
    rw [hentries] at h
    cases h
  | cons e rest => rfl

/-- A server that takes up a request is on the terms it offers, and if it has anything to grant it
answers with that. -/
theorem Run.start_grants (direction : Direction) (filename mode : String) (requested : Options)
    (service : Service) (port : UInt16) (client : Endpoint) (timing : Timing) (now : Nat)
    (host : Host) :
    let result := start (.server service port client timing now)
      (.answer (.request direction filename mode requested) client) host
    (∃ s size, result.1 = .waiting s ∧ s.terms = (Terms.offer requested size).terms ∧
      ((Terms.offer requested size).options.isEmpty = false → World.sent result.2.2 =
        [s.letter (.optionAck (Terms.offer requested size).options)])) ∨
    Run.Fails result := by
  refine ((start_outcome _ _ _).rests_or_fails ?_).imp ?_ id
  · rintro halt scene (_ | hsetback)
    exact hsetback.silent.trans (Scene.sent_showing _ _)
  · rintro ⟨scene, hopened, hrest⟩
    rw [hrest]
    cases hopened with
    | answered hturn =>
      cases hturn with
      | offered _ hserved =>
        rw [rest_waiting rfl]
        refine ⟨_, _, rfl, rfl, fun _ => ?_⟩
        cases hserved <;> rfl
      | served _ _ hnone hgive =>
        rw [rest_waiting rfl]
        cases hgive
        exact ⟨_, _, rfl, rfl, fun hsome => absurd (hnone.symm.trans hsome) Bool.noConfusion⟩
      | created =>
        rw [rest_waiting rfl]
        refine ⟨_, _, rfl, rfl, fun hsome => congrArg (fun p => [Session.letter _ p]) ?_⟩
        exact if_neg (Bool.eq_false_iff.1 hsome)

end TrivialFtp

namespace TrivialFtp.Command

/-! ### What a client's command sends -/

/-- The request that a task makes of a server. -/
inductive Asks (host : Host) : Task → Direction → String → Options → Prop where
  | get {common : Common} {remote : String} {target : Option String} {options : Options}
      (hoptions : options.entries = wanted common (if common.withSize then some 0 else none)) :
    Asks host (.get common remote target) .read remote options
  | put {common : Common} {source : String} {remote : Option String} {name : String}
      {options : Options} (hname : remoteName source remote = .ok name)
      (hoptions : options.entries =
        wanted common (if common.withSize then some (sizeOf host source) else none)) :
    Asks host (.put common source remote) .write name options

/-- A server that takes up a request has the block size given in force, if one is, and grants every
option, the block size as it is. -/
def Heeded (direction : Direction) (name : String) (options : Options) (blockSize : Option Nat) :
    Prop :=
  ∀ (service : Service) (port : UInt16) (client : Endpoint) (timing : Timing) (now : Nat)
    (host : Host),
    let result := Run.start (.server service port client timing now)
      (.answer (.octetRequest direction name options) client) host
    Run.Fails result ∨ ∃ s, result.1 = .waiting s ∧ s.blockSize = blockSize.getD 512 ∧
      ∀ n, blockSize = some n → ∃ granted,
        World.sent result.2.2 = [s.letter (.optionAck granted)] ∧
          granted.names = options.names ∧
          granted.get? Terms.blockSizeName = some (Numeral.write n)

section Sends

variable {host : Host} {direction : Direction} {name : String} {options : Options} {task : Task}

theorem Asks.exists_wanted (h : Asks host task direction name options) :
    ∃ common size, task.blockSize? = common.blockSize ∧ options.entries = wanted common size := by
  cases h with
  | get hoptions => exact ⟨_, _, rfl, hoptions⟩
  | put _ hoptions => exact ⟨_, _, rfl, hoptions⟩

/-- The request of a task with nothing wrong is heeded. -/
theorem Asks.heeded (h : Asks host task direction name options) (hsound : Sound host task) :
    Heeded direction name options task.blockSize? := by
  obtain ⟨common, size, hgiven, hoptions⟩ := h.exists_wanted
  have hrange : ∀ n, common.blockSize = some n → 8 ≤ n ∧ n ≤ 65464 := by
    intro n hn
    by_contra hout
    exact hsound _ (.blockSize (hgiven.trans hn) (by omega))
  intro service port client timing now host result
  rcases Run.start_grants direction name _ options service port client timing now host with
    ⟨s, sizeReply, hrun, hterms, hsent⟩ | hfails
  · obtain ⟨hsize, htold, hnames⟩ := offer_wanted hoptions hrange sizeReply
    right
    refine ⟨s, hrun, ?_, fun n hn => ?_⟩
    · rw [Session.blockSize, hterms, hsize, hgiven]
    · rw [← hgiven, hn] at htold
      exact ⟨_, hsent (Options.isEmpty_of_get? htold), hnames, htold⟩
  · exact .inl hfails

/-- It is read as it was written, if the name holds no null character. -/
theorem Asks.decode (h : Asks host task direction name options) (hname : '\x00' ∉ name.toList) :
    Packet.decode (Packet.octetRequest direction name options).encode =
      .ok (.octetRequest direction name options) := by
  obtain ⟨common, size, -, hoptions⟩ := h.exists_wanted
  refine Packet.decode_encode ?_ ?_
  · rintro s (_ | ⟨_, _ | ⟨_, hs⟩⟩)
    · exact hname
    · decide
    · exact clean_wanted hoptions s hs
  · intro mode hmode
    obtain rfl : Mode.octet.name = mode := Option.some.inj hmode
    decide

/-- A transfer that has begun has sent its request, or it has failed. -/
theorem launched_asks {client : Client} {role : Role} {stream : Stream} {world : World}
    {deeds : List Deed} {left : Host} (h : launched host
      (client.transfer role direction name stream options) = .ok (world, deeds) left) :
    ∀ letter ∈ World.sent deeds, letter.IsReport ∨
      letter.bytes = (Packet.octetRequest direction name options).encode ∧
        ∃ s, world.client = some (.waiting s) ∧ s.stream = stream := by
  intro letter hletter
  cases h
  rcases client.transfer_asks role direction name stream options host with ⟨s, hasks⟩ | hfails
  · obtain ⟨port, remote, now, rfl⟩ := hasks.session
    exact .inr ⟨hasks.sent letter hletter, _, congrArg some hasks.run, rfl⟩
  · exact .inl (hfails.sent letter hletter)

/-- What a command has sent when it begins is the request of its task, unless it has failed. -/
theorem Comes.asks {verbose : Bool} {result : EStateM.Result Refusal Host Begun} {world : World}
    {deeds : List Deed} {left : Host} (h : Comes verbose host task result)
    (hresult : result = .ok (world, deeds) left) :
    ∀ letter ∈ World.sent deeds, letter.IsReport ∨ ∃ direction name options,
      Asks host task direction name options ∧ Sound host task ∧
        letter.bytes = (Packet.octetRequest direction name options).encode := by
  intro letter hletter
  cases h with
  | gets hsound _ hoptions =>
    exact (launched_asks hresult letter hletter).imp_right fun hsent =>
      ⟨_, _, _, .get hoptions, hsound, hsent.1⟩
  | puts hsound hname _ hoptions =>
    exact (launched_asks hresult letter hletter).imp_right fun hsent =>
      ⟨_, _, _, .put hname hoptions, hsound, hsent.1⟩
  | serves =>
    cases hresult
    cases hletter
  | refused | noTarget | noSource => cases hresult

/-- A task that is refused leaves the host as it was. -/
theorem Comes.left_of_error {verbose : Bool} {result : EStateM.Result Refusal Host Begun}
    {refusal : Refusal} {left : Host} (h : Comes verbose host task result)
    (hresult : result = .error refusal left) : left = host := by
  cases h with
  | refused | noTarget | noSource =>
    cases hresult
    rfl
  | gets | puts | serves => cases hresult

/-- A task with something wrong is refused for something that is wrong with it. -/
theorem Comes.of_faulty {verbose : Bool} {result : EStateM.Result Refusal Host Begun}
    {fault : Refusal} (h : Comes verbose host task result) (hfaulty : Faulty host task fault) :
    ∃ refusal, Faulty host task refusal ∧ result = .error refusal host := by
  cases h with
  | refused hrefusal => exact ⟨_, hrefusal, rfl⟩
  | noTarget hsound | noSource hsound | gets hsound | puts hsound | serves hsound =>
    exact absurd hfaulty (hsound fault)

end Sends

/-- A command line that is understood is carried out by its task. -/
theorem run_carryOut {parse : Parser} {args : List String} {verbose : Bool} {task : Task}
    (h : parse args = .ok ⟨verbose, task⟩) : carryOut parse args = perform verbose task := by
  unfold carryOut
  rw [h]

/-- **Refused commands have no effect.**  A command that is refused leaves the host as it was: it
has made, emptied and written no file, taken no port and sent nothing.  So ends every command line
that is not understood and every task with a timeout of 0, with a block size out of range, with no
name for what it uploads or with no directory to serve.  What a client's command sends as it begins
is the request of its task, with the block size and the size it was given and no other options.
Wherever there is room for the whole of it, as there is for `Listening.longestRequest` bytes where
a server listens, it is read as that request, and every server that takes it up has the block size
in force as it was given. -/
theorem carryOut_careful (parse : Parser) (args : List String) (host : Host) :
    (∀ refusal left, (carryOut parse args).run host = .error refusal left → left = host) ∧
    (∀ u, parse args = .error u → (carryOut parse args).run host = .error (.usage u) host) ∧
    (∀ verbose task fault, parse args = .ok ⟨verbose, task⟩ → Faulty host task fault →
      ∃ refusal, Faulty host task refusal ∧ (carryOut parse args).run host = .error refusal host) ∧
    ∀ verbose task world deeds left, parse args = .ok ⟨verbose, task⟩ →
      (carryOut parse args).run host = .ok (world, deeds) left → ∀ letter ∈ World.sent deeds,
        letter.IsReport ∨ ∃ direction name options, Asks host task direction name options ∧
          letter.bytes = (Packet.octetRequest direction name options).encode ∧
          ('\x00' ∉ name.toList → ∀ room, letter.bytes.length ≤ room →
            Packet.decode (letter.bytes.take room) = .ok (.octetRequest direction name options)) ∧
          Heeded direction name options task.blockSize? := by
  have husage : ∀ u, parse args = .error u →
      (carryOut parse args).run host = .error (.usage u) host := by
    intro u hu
    unfold carryOut
    rw [hu]
    rfl
  refine ⟨fun refusal left hrun => ?_, husage, fun verbose task fault hargs hfaulty => ?_,
    fun verbose task world deeds left hargs hrun letter hletter => ?_⟩
  · cases hargs : parse args with
    | error u =>
      rw [husage u hargs] at hrun
      cases hrun
      rfl
    | ok invocation =>
      rw [run_carryOut hargs] at hrun
      exact (perform_comes invocation.verbose host invocation.task).left_of_error hrun
  · rw [run_carryOut hargs]
    exact (perform_comes verbose host task).of_faulty hfaulty
  · rw [run_carryOut hargs] at hrun
    refine ((perform_comes verbose host task).asks hrun letter hletter).imp_right ?_
    rintro ⟨direction, name, options, hasks, hsound, hbytes⟩
    refine ⟨direction, name, options, hasks, hbytes, fun hname room hlength => ?_,
      hasks.heeded hsound⟩
    rw [List.take_of_length_le hlength, hbytes]
    exact hasks.decode hname

/-- What starts like a write request is no report. -/
theorem not_isReport_of_write {letter : Datagram} (h : letter.bytes[1]? = some 2) :
    ¬ letter.IsReport := by
  rintro ⟨code, message, hreport⟩
  rw [hreport] at h
  cases h

/-- A host with a file to put. -/
def oneFile : Host := { store := ⟨[("a", { content := [1, 2, 3] })]⟩ }

/-- A block size of 7 is refused; one of 9 is requested, and the size of the file after it, and a
server that listens reads that request. -/
theorem carryOut_careful_oneFile :
    (carryOut understand ["get", "--host", "10.0.0.2", "--blksize", "7", "f"]).run oneFile =
      .error (.blockSizeOutOfRange 7) oneFile ∧
    ∃ world letter left options,
      (carryOut understand ["put", "--host", "10.0.0.2", "--blksize", "9", "--tsize", "a"]).run
        oneFile = .ok (world, [.sent letter false]) left ∧
      letter.bytes = (Packet.octetRequest .write "a" options).encode ∧
      options.entries = [("blksize", "9"), ("tsize", "3")] ∧
      Packet.decode (letter.bytes.take Listening.longestRequest) =
        .ok (.octetRequest .write "a" options) ∧
      Heeded .write "a" options (some 9) := by
  have hget : understand ["get", "--host", "10.0.0.2", "--blksize", "7", "f"] =
      .ok ⟨false, .get { host := "10.0.0.2", blockSize := some 7 } "f" none⟩ := by rfl
  have hput : understand ["put", "--host", "10.0.0.2", "--blksize", "9", "--tsize", "a"] =
      .ok ⟨false, .put { host := "10.0.0.2", blockSize := some 9, withSize := true } "a" none⟩ := by
    rfl
  constructor
  · obtain ⟨refusal, hfaulty, hrun⟩ :=
      (carryOut_careful understand _ oneFile).2.2.1 _ _ _ hget
        (.blockSize rfl (.inl (by decide)))
    obtain rfl : refusal = .blockSizeOutOfRange 7 := by
      cases hfaulty with
      | noTimeout hzero => cases hzero
      | blockSize hgiven => rw [Option.some.inj hgiven]
    exact hrun
  · obtain ⟨world, letter, left, hrun, hword, hlength⟩ : ∃ world letter left,
        (carryOut understand ["put", "--host", "10.0.0.2", "--blksize", "9", "--tsize", "a"]).run
          oneFile = .ok (world, [.sent letter false]) left ∧ letter.bytes[1]? = some 2 ∧
        letter.bytes.length ≤ Listening.longestRequest := ⟨_, _, _, rfl, rfl, by decide⟩
    have hletter : letter ∈ World.sent [.sent letter false] := List.mem_singleton_self _
    rcases (carryOut_careful understand _ oneFile).2.2.2 _ _ _ _ _ hput hrun letter hletter with
      hreport | ⟨direction, name, options, hasks, hbytes, hreads, hheeded⟩
    · exact absurd hreport (not_isReport_of_write hword)
    · cases hasks with
      | put hname hoptions =>
        cases hname
        exact ⟨_, _, _, options, hrun, hbytes, hoptions, hreads (by decide) _ hlength, hheeded⟩

/-! ### The size that an upload tells -/

/-- A file at a path that holds something. -/
def FullFile (host : Host) (path : String) : Prop :=
  ∃ node, host.store.look path = .ok node ∧ node.isFile = true ∧ node.content ≠ []

/-- What an upload reads and the size it tells of it.  The path of the standard input is looked up
for the size like any other, although it is not what is read. -/
inductive Tells (host : Host) : String → Stream → Nat → Prop where
  | file {source : String} {node : Node} (hsource : source ≠ standardPath)
      (hlook : host.store.look source = .ok node) (hfile : node.isFile = true) :
    Tells host source (.ofNode node) node.content.length
  | directory {source : String} {node : Node} (hsource : source ≠ standardPath)
      (hlook : host.store.look source = .ok node) (hfile : node.isFile = false) :
    Tells host source (.ofNode node) 0
  | input (hnone : ¬ FullFile host standardPath) :
    Tells host standardPath (.reading .input host.input) 0
  /-- A file has the name that stands for the standard input. -/
  | namesake {node : Node} (hlook : host.store.look standardPath = .ok node)
      (hfile : node.isFile = true) (hfull : node.content ≠ []) :
    Tells host standardPath (.reading .input host.input) node.content.length

theorem sizeOf_of_look {host : Host} {path : String} {node : Node}
    (h : host.store.look path = .ok node) :
    sizeOf host path = if node.isFile then node.content.length else 0 := by
  unfold sizeOf
  rw [h]

/-- The standard input is told of by the path that stands for it, file or not. -/
theorem tells_input (host : Host) :
    Tells host standardPath (.reading .input host.input) (sizeOf host standardPath) := by
  by_cases hfull : FullFile host standardPath
  · obtain ⟨node, hlook, hfile, hcontent⟩ := hfull
    rw [sizeOf_of_look hlook, if_pos hfile]
    exact .namesake hlook hfile hcontent
  · have hzero : sizeOf host standardPath = 0 := by
      cases hlook : host.store.look standardPath with
      | error fault =>
        unfold sizeOf
        rw [hlook]
      | ok node =>
        rw [sizeOf_of_look hlook]
        split
        · next hfile =>
          rw [List.length_eq_zero_iff]
          by_contra hcontent
          exact hfull ⟨node, hlook, hfile, hcontent⟩
        · rfl
    rw [hzero]
    exact .input hfull

/-- Whatever can be opened is told of. -/
theorem tells_of_source {host : Host} {source : String} {stream : Stream}
    (h : Stream.source host source = .ok stream) :
    Tells host source stream (sizeOf host source) := by
  unfold Stream.source at h
  split at h
  · next hsource =>
    subst hsource
    obtain rfl := Except.ok.inj h
    exact tells_input host
  · next hsource =>
    cases hopen : host.store.openNode source with
    | error fault =>
      rw [hopen] at h
      cases h
    | ok node =>
      rw [hopen] at h
      obtain rfl := Except.ok.inj h
      have hlook := Store.look_of_openNode hopen
      rw [sizeOf_of_look hlook]
      split
      · next hfile => exact .file hsource hlook hfile
      · next hfile => exact .directory hsource hlook (Bool.eq_false_iff.2 hfile)

/-- Of a file with a name of its own no other size is told than its own. -/
theorem Tells.of_file {host : Host} {source : String} {stream : Stream} {size : Nat} {node : Node}
    (h : Tells host source stream size) (hsource : source ≠ standardPath)
    (hlook : host.store.look source = .ok node) (hfile : node.isFile = true) :
    stream = .ofNode node ∧ size = node.content.length := by
  cases h with
  | file _ hfound =>
    obtain rfl := Except.ok.inj (hlook.symm.trans hfound)
    exact ⟨rfl, rfl⟩
  | directory _ hfound hdirectory =>
    obtain rfl := Except.ok.inj (hlook.symm.trans hfound)
    exact absurd (hfile.symm.trans hdirectory) Bool.noConfusion
  | input | namesake => exact absurd rfl hsource

/-- **The size that an upload tells.**  An upload that tells a size and gets as far as its request
tells the length of the file that it reads, and 0 if it reads something else: unless it reads the
standard input while there is a file of the name that stands for it, which is then told of
instead. -/
theorem put_tells {parse : Parser} {args : List String} {verbose : Bool} {common : Common}
    {source : String} {remote : Option String} {host left : Host} {world : World}
    {deeds : List Deed} {letter : Datagram}
    (hargs : parse args = .ok ⟨verbose, .put common source remote⟩)
    (hsize : common.withSize = true)
    (hrun : (carryOut parse args).run host = .ok (world, deeds) left)
    (hletter : letter ∈ World.sent deeds) (hreport : ¬ letter.IsReport) :
    ∃ name options s size, remoteName source remote = .ok name ∧
      letter.bytes = (Packet.octetRequest .write name options).encode ∧
      options.get? Terms.transferSizeName = some (Numeral.write size) ∧
      world.client = some (.waiting s) ∧ Tells host source s.stream size := by
  rw [run_carryOut hargs] at hrun
  have hcomes := perform_comes verbose host (.put common source remote)
  generalize (perform verbose (.put common source remote)).run host = result at hcomes hrun
  cases hcomes with
  | puts _ hname _ hoptions hsource =>
    obtain ⟨hbytes, s, hclient, rfl⟩ :=
      (launched_asks hrun letter hletter).resolve_left hreport
    refine ⟨_, _, s, _, hname, hbytes, ?_, hclient, tells_of_source hsource⟩
    rw [if_pos hsize] at hoptions
    have htold : (Terms.transferSizeName, Numeral.write (sizeOf host source)) ∈
        wanted common (some (sizeOf host source)) :=
      List.mem_append_right _ (List.mem_singleton_self _)
    rw [← hoptions] at htold
    exact Options.get?_of_mem htold (Terms.same_self _)
  | refused | noSource => cases hrun

/-- The size of the file is told. -/
theorem put_tells_oneFile :
    ∃ world letter left options s,
      (carryOut understand ["put", "--host", "10.0.0.2", "--tsize", "a"]).run oneFile =
        .ok (world, [.sent letter false]) left ∧
      letter.bytes = (Packet.octetRequest .write "a" options).encode ∧
      options.get? Terms.transferSizeName = some "3" ∧
      world.client = some (.waiting s) ∧ s.stream = .ofNode { content := [1, 2, 3] } := by
  have hput : understand ["put", "--host", "10.0.0.2", "--tsize", "a"] =
      .ok ⟨false, .put { host := "10.0.0.2", withSize := true } "a" none⟩ := by rfl
  obtain ⟨world, letter, left, hrun, hword⟩ : ∃ world letter left,
      (carryOut understand ["put", "--host", "10.0.0.2", "--tsize", "a"]).run oneFile =
        .ok (world, [.sent letter false]) left ∧ letter.bytes[1]? = some 2 := ⟨_, _, _, rfl, rfl⟩
  have hreport := not_isReport_of_write hword
  obtain ⟨name, options, s, size, hname, hbytes, htold, hclient, htells⟩ :=
    put_tells hput rfl hrun (List.mem_singleton_self _) hreport
  cases hname
  obtain ⟨hstream, rfl⟩ := htells.of_file (by decide) rfl rfl
  exact ⟨world, letter, left, options, s, hrun, hbytes, htold, hclient, hstream⟩

/-- A host with a file of the name that stands for the standard input. -/
def namesake : Host where
  store := ⟨[("-", { content := [1, 2, 3, 4, 5] })]⟩
  input := { content := [10, 11, 12] }

/-- Three bytes are read, from the standard input, and five are told of. -/
theorem tells_namesake :
    ∃ world letter left s,
      (carryOut understand ["put", "--host", "10.0.0.2", "--tsize", "--", "-", "f"]).run namesake =
        .ok (world, [.sent letter false]) left ∧
      letter.bytes = (Packet.octetRequest .write "f" (.ofList [("tsize", "5")])).encode ∧
      world.client = some (.waiting s) ∧ s.stream = .reading .input { content := [10, 11, 12] } :=
  ⟨_, _, _, _, rfl, rfl, rfl, rfl⟩

end TrivialFtp.Command
