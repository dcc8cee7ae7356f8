import TrivialFtp.Session.Block

/-!
# Requests

How a server takes up a request.  Only octet transfers of files directly under the root are
served; a file that is not there may be supplied by the resolver.

- `isPlain_iff`: the file names that are served.
-/

namespace TrivialFtp

/-- A name that stays within the directory it is looked up in. -/
def isPlain (name : String) : Bool :=
  name ≠ "" && name ≠ "." && name ≠ ".." && name.toList.all fun c => c ≠ '/' && c ≠ '\\'

/-- What is wrong with a request, the mode before the name. -/
def requestViolation? (filename mode : String) : Option Violation :=
  if ((Mode.ofText? mode).map Mode.isSupported).getD false then
    if isPlain filename then none else some (.nameRefused filename)
  else some (.modeRefused mode)

theorem isPlain_iff (name : String) :
    isPlain name ↔ name ≠ "" ∧ name ≠ "." ∧ name ≠ ".." ∧ '/' ∉ name.toList ∧ '\\' ∉ name.toList := by
  simp only [isPlain, Bool.and_eq_true, decide_eq_true_eq, List.all_eq_true, ne_eq]
  constructor
  · rintro ⟨⟨⟨h₁, h₂⟩, h₃⟩, h⟩
    exact ⟨h₁, h₂, h₃, fun k => (h _ k).1 rfl, fun k => (h _ k).2 rfl⟩
  · rintro ⟨h₁, h₂, h₃, h₄, h₅⟩
    exact ⟨⟨⟨h₁, h₂⟩, h₃⟩, fun c hc => ⟨fun k => h₄ (k ▸ hc), fun k => h₅ (k ▸ hc)⟩⟩

namespace Act

/-- The settings of a session that serves, for a request it can take up. -/
def vet (filename mode : String) : Act Service := do
  if let some v := requestViolation? filename mode then fail (.violation v)
  match (← session).role.service? with
  | some service => return service
  | none => fail (.violation .notServing)

/-- Open what a reader is served under a name, and tell its size if it is a file. -/
def openServed (service : Service) (filename : String) : Act (Stream × Option Nat) := do
  let path := Path.join service.root filename
  record (.touched path)
  let store := (← get).host.store
  match store.look path with
  | .ok node =>
    if node.isFile then
      match store.openNode path with
      | .ok node => return (.ofNode node, some node.content.length)
      | .error f => fail (.io f)
    else resolve
  | .error f => if f.kind = .notFound then resolve else fail (.io f)
where
  /-- Ask the resolver for the file. -/
  resolve : Act (Stream × Option Nat) := do
    match service.resolver with
    | none => fail (.fileNotFound filename)
    | some resolver =>
      record (.consulted filename)
      match resolver filename with
      | some (.content node) => return (.ofNode node, none)
      | some .crash => throw .crash
      | none => fail (.fileNotFound filename)

/-- Make a file for a writer. -/
def createServed (service : Service) (filename : String) : Act Unit := do
  let path := Path.join service.root filename
  record (.touched path)
  let scene ← get
  match Stream.create scene.host path with
  | .ok (stream, host) => set { scene with host, session := { scene.session with stream } }
  | .error f => fail (.io f)

/-- Grant what can be granted of the requested options. -/
def grant (requested : Options) (sizeReply : Option Nat) : Act Options := do
  let offer := Terms.offer requested sizeReply
  update fun s => { s with terms := offer.terms }
  return offer.options

/-- Take up a read request: with options granted the reader is told of them, otherwise it is sent
block 1. -/
def serveRead (filename mode : String) (requested : Options) (source : Endpoint) : Act Phase := do
  update fun s => s.pin source.port
  let service ← vet filename mode
  let (stream, size) ← openServed service filename
  update fun s => { s with stream }
  let granted ← grant requested (if service.reportSize then size else none)
  if granted.isEmpty then sendFirst
  else
    send (.optionAck granted)
    update fun s => { s.setNextBlock 0 with finalSent := false }
    return .offering

/-- Take up a write request: the writer is told of the options granted, or that block 0 is
acknowledged. -/
def serveWrite (filename mode : String) (requested : Options) (source : Endpoint) : Act Phase := do
  update fun s => s.pin source.port
  let service ← vet filename mode
  createServed service filename
  let announced := (requested.get? Terms.transferSizeName).bind
    (Numeral.readTrimmed? Numeral.word64)
  let granted ← grant requested (if service.reportSize then announced else none)
  if granted.isEmpty then sendAck 0 else send (.optionAck granted)
  update fun s => s.setNextBlock 1
  return .awaitingData

end Act

end TrivialFtp
