import FleetGate.Pem

/-!
# Certificates of authorities

An authority is trusted by its certificate, which is taken apart only as far as
that needs.  It is a sequence of three: the content that is signed, the algorithm of
the signature, and the signature.  The content has a version, a serial number, the
algorithm once more, the issuer, the validity, the subject, the key, and in the third
version perhaps extensions.  A certificate of the first version has neither the
version nor extensions.

Every element is a tag, a length and as many bytes.  Lengths are written in the
fewest bytes and are less than 2¹⁶.
-/

namespace FleetGate.Certificate

/-- Bytes of an element. -/
abbrev Bytes := List UInt8

/-- The length at the front. -/
def length? : Bytes → Option (Nat × Bytes)
  | [] => none
  | b :: rest =>
      if b < 0x80 then some (b.toNat, rest)
      else if b == 0x81 then
        match rest with
        | n :: rest => if n < 0x80 then none else some (n.toNat, rest)
        | [] => none
      else if b == 0x82 then
        match rest with
        | h :: l :: rest => if h == 0 then none else some (h.toNat * 256 + l.toNat, rest)
        | _ => none
      else none

/-- The element at the front: its tag, its content, and the bytes after it. -/
def element? : Bytes → Option (UInt8 × Bytes × Bytes)
  | [] => none
  | tag :: rest => do
      if tag &&& 0x1f == 0x1f then none
      else
        let (n, rest) ← length? rest
        if n ≤ rest.length then pure (tag, rest.take n, rest.drop n) else none

/-- The content of the element at the front, which must have a tag. -/
def expect? (tag : UInt8) (bytes : Bytes) : Option (Bytes × Bytes) := do
  let (found, content, rest) ← element? bytes
  if found == tag then pure (content, rest) else none

/-- The tag of a sequence. -/
def sequenceTag : UInt8 := 0x30

/-- The tag of a whole number. -/
def integerTag : UInt8 := 0x02

/-- The tag of a string of bits. -/
def bitsTag : UInt8 := 0x03

/-- The tag of a string of bytes. -/
def bytesTag : UInt8 := 0x04

/-- The tag of a name of an algorithm or an extension. -/
def nameTag : UInt8 := 0x06

/-- The tag of the version. -/
def versionTag : UInt8 := 0xa0

/-- The tag of the extensions. -/
def extensionsTag : UInt8 := 0xa3

/-- Whether an extension is a name, perhaps a truth value, and bytes. -/
def isExtension (bytes : Bytes) : Bool :=
  (do
    let (_, rest) ← expect? nameTag bytes
    let rest := match expect? 0x01 rest with
      | some (_, rest) => rest
      | none => rest
    let (_, rest) ← expect? bytesTag rest
    pure rest.isEmpty).getD false

/-- Whether bytes are extensions and nothing else, of which there are at most `limit`. -/
def areExtensions : Nat → Bytes → Bool
  | _, [] => true
  | 0, _ => false
  | limit + 1, bytes =>
      match expect? sequenceTag bytes with
      | some (content, rest) => isExtension content && areExtensions limit rest
      | none => false

/-- Whether what follows the key is nothing or extensions. -/
def endsWell : Bytes → Bool
  | [] => true
  | bytes =>
      (do
        let (tagged, rest) ← expect? extensionsTag bytes
        let (list, inner) ← expect? sequenceTag tagged
        pure (rest.isEmpty && inner.isEmpty && !list.isEmpty &&
          areExtensions list.length list)).getD false

/-- The version of a content, and what follows it.  A content without one is of the
first version. -/
def version? (content : Bytes) : Option (Nat × Bytes) :=
  match expect? versionTag content with
  | none => some (1, content)
  | some (inner, rest) => match expect? integerTag inner with
      | some ([n], []) => some (n.toNat + 1, rest)
      | _ => none

/-- Whether the signed content of a certificate names an authority. -/
def isContent (algorithm content : Bytes) : Bool :=
  (do
    let (version, rest) ← version? content
    let (_, rest) ← expect? integerTag rest
    let (same, rest) ← expect? sequenceTag rest
    let (_, rest) ← expect? sequenceTag rest
    let (_, rest) ← expect? sequenceTag rest
    let (_, rest) ← expect? sequenceTag rest
    let (_, rest) ← expect? sequenceTag rest
    pure (if version == 3 then same == algorithm && endsWell rest
      else version == 1 && rest.isEmpty)).getD false

/-- Whether bytes are a certificate that may be trusted. -/
def isAuthority (bytes : Bytes) : Bool :=
  (do
    let (certificate, rest) ← expect? sequenceTag bytes
    let (content, parts) ← expect? sequenceTag certificate
    let (algorithm, parts) ← expect? sequenceTag parts
    let (signature, parts) ← expect? bitsTag parts
    pure (rest.isEmpty && parts.isEmpty && signature.head? == some 0 &&
      isContent algorithm content)).getD false

/-- The certificates of a text, unless a block is malformed. -/
def bundle? (text : String) : Option (List Bytes) :=
  (Pem.blocks? text).map fun blocks =>
    (blocks.filter (·.tag == Pem.certificateTag)).map (·.contents)

/-- Whether a text holds a certificate and the key to it. -/
def isIdentity (text : String) : Bool :=
  match Pem.blocks? text with
  | none => false
  | some blocks =>
      blocks.any (·.tag == Pem.certificateTag) &&
        blocks.any (fun b => Pem.keyTags.contains b.tag && (expect? sequenceTag b.contents).isSome)

end FleetGate.Certificate
