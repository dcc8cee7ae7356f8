import TrivialFtp.Failure
import TrivialFtp.Options.BlockSize

/-!
# Terms

What the two sides of a transfer agree on: how large the blocks are and, for information, how
large the file is.  A server grants what it supports of a request; a client checks that it was
granted no more than it asked for.
-/

namespace TrivialFtp

/-- The terms of a transfer. -/
structure Terms where
  blockSize : BlockSize := .standard
  transferSize : Option Nat := none
  deriving DecidableEq, Repr

namespace Terms

/-- The name of the option for the block size. -/
def blockSizeName : String := "blksize"

/-- The name of the option for the size of the file. -/
def transferSizeName : String := "tsize"

/-- The size told by a server that tells none: it says no more than that the option was seen. -/
def placeholder : String := "1"

/-- The terms a server is ready to keep, and the options that say so. -/
structure Offer where
  terms : Terms := {}
  options : Options := ∅
  deriving DecidableEq, Repr

/-- Take one requested option into an offer.  A block size is brought into range, a size is
answered with `sizeReply`, and everything else is left out. -/
def Offer.grant (sizeReply : Option Nat) (offer : Offer) (name value : String) : Offer :=
  if Letters.Same name blockSizeName then
    match Numeral.readTrimmed? Numeral.word64 value with
    | some n =>
      let size := BlockSize.clamp n
      { terms := { offer.terms with blockSize := size }
        options := offer.options.insert blockSizeName size.text }
    | none => offer
  else if Letters.Same name transferSizeName then
    let reply := (sizeReply.map Numeral.write).getD placeholder
    { terms := { offer.terms with transferSize := Numeral.read? Numeral.word64 reply }
      options := offer.options.insert transferSizeName reply }
  else offer

/-- A server's offer for requested options. -/
def offer (requested : Options) (sizeReply : Option Nat) : Offer :=
  requested.entries.foldl (fun o e => o.grant sizeReply e.1 e.2) {}

/-- Take one granted option into the terms of a client that requested `requested`. -/
def accept (requested : Options) (terms : Terms) (name value : String) :
    Except Disagreement Terms :=
  if !requested.contains name then .error (.unrequested name)
  else if Letters.Same name blockSizeName then
    match BlockSize.read? value with
    | some size => .ok { terms with blockSize := size }
    | none => .error (.blockSizeOutOfRange value)
  else if Letters.Same name transferSizeName then
    match Numeral.readTrimmed? Numeral.word64 value with
    | some n => .ok { terms with transferSize := some n }
    | none => .error (.transferSizeInvalid value)
  else .error (.unsupported name)

/-- The terms of a client that requested `requested` and was granted `granted`. -/
def agree (requested granted : Options) : Except Disagreement Terms :=
  if granted.isEmpty then .error .nothingGranted
  else granted.entries.foldlM (fun terms e => accept requested terms e.1 e.2) {}

end Terms

end TrivialFtp
