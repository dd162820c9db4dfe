import Utterance.Decimal.Double

/-!
Embeddings of texts: how similar two are, and how one is stored in octets.
-/

namespace Utterance

/-- A text as a point of a space. -/
abbrev Embedding := List Decimal.Single

namespace Embedding

open Decimal (Single Double)

/-- The sums from which a similarity is computed: of the products, and of the squares on each side. -/
structure Sums where
  dot : Double := .ofFloat 0
  left : Double := .ofFloat 0
  right : Double := .ofFloat 0

def Sums.add (s : Sums) (p : Single × Single) : Sums :=
  let x := p.1.toDouble
  let y := p.2.toDouble
  ⟨s.dot.add (x.mul y), s.left.add (x.mul x), s.right.add (y.mul y)⟩

/-- The cosine of the angle between two embeddings; zero if they have not the same length or one has
no direction. -/
def cosine (a b : Embedding) : Double :=
  if a.length ≠ b.length || a.isEmpty then .ofFloat 0
  else
    let s := (a.zip b).foldl Sums.add {}
    if s.left.isZero || s.right.isZero then .ofFloat 0
    else s.dot.div (s.left.sqrt.mul s.right.sqrt)

/-- The octets of a coordinate, lowest first. -/
def octets (x : Single) : List UInt8 :=
  [x.bits.toUInt8, (x.bits >>> 8).toUInt8, (x.bits >>> 16).toUInt8, (x.bits >>> 24).toUInt8]

def coordinate (a b c d : UInt8) : Single :=
  ⟨a.toUInt32 ||| b.toUInt32 <<< 8 ||| c.toUInt32 <<< 16 ||| d.toUInt32 <<< 24⟩

def encode (v : Embedding) : List UInt8 :=
  v.flatMap octets

/-- The embedding that octets hold; up to three octets at the end that make no coordinate are left out. -/
def decode : List UInt8 → Embedding
  | a :: b :: c :: d :: rest => coordinate a b c d :: decode rest
  | _ => []

end Embedding

end Utterance
