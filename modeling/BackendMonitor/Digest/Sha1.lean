import BackendMonitor.Bytes

/-!
# The digest of 160 bits

The message is padded to whole blocks of 64 bytes. Each block is stretched to 80 words, which are
stirred one after the other into five words; the five words in the end are the digest.
-/

namespace BackendMonitor.Digest.Sha1

/-- The five words that are stirred. -/
structure State where
  a : UInt32
  b : UInt32
  c : UInt32
  d : UInt32
  e : UInt32
deriving DecidableEq, Repr

/-- The words before the first block. -/
def start : State :=
  ⟨0x67452301, 0xEFCDAB89, 0x98BADCFE, 0x10325476, 0xC3D2E1F0⟩

/-- Turns a word left. -/
def turn (n : UInt32) (w : UInt32) : UInt32 :=
  (w <<< n) ||| (w >>> (32 - n))

/-- Fills a message up to whole blocks: a mark, zeros, and its length in bits. -/
def pad (message : List UInt8) : List UInt8 :=
  let zeros := (119 - message.length % 64) % 64
  message ++ 0x80 :: (List.replicate zeros 0 ++ Bytes.ofNat 8 (8 * message.length))

/-- The words in bytes, four bytes each. -/
def words : List UInt8 → List UInt32
  | a :: b :: c :: d :: rest =>
    (a.toUInt32 <<< 24 ||| b.toUInt32 <<< 16 ||| c.toUInt32 <<< 8 ||| d.toUInt32) :: words rest
  | _ => []

/-- Adds words to a schedule, so many of them; the newest word stands first. -/
def stretch : Nat → List UInt32 → List UInt32
  | 0, ws => ws
  | n + 1, ws =>
    stretch n
      (turn 1 (ws.getD 2 0 ^^^ ws.getD 7 0 ^^^ ws.getD 13 0 ^^^ ws.getD 15 0) :: ws)

/-- How three words are mixed in a round, and what is added. -/
def mix (round : Nat) (b c d : UInt32) : UInt32 × UInt32 :=
  if round < 20 then ((b &&& c) ||| (~~~b &&& d), 0x5A827999)
  else if round < 40 then (b ^^^ c ^^^ d, 0x6ED9EBA1)
  else if round < 60 then ((b &&& c) ||| (b &&& d) ||| (c &&& d), 0x8F1BBCDC)
  else (b ^^^ c ^^^ d, 0xCA62C1D6)

/-- Stirs a word in. -/
def stir (s : State) (round : Nat) (w : UInt32) : State :=
  let (f, k) := mix round s.b s.c s.d
  ⟨turn 5 s.a + f + s.e + k + w, s.a, turn 30 s.b, s.c, s.d⟩

/-- Takes a block of sixteen words in. -/
def takeBlock (s : State) (block : List UInt32) : State :=
  let schedule := (stretch 64 block.reverse).reverse
  let r := schedule.zipIdx.foldl (fun r (w, round) => stir r round w) s
  ⟨s.a + r.a, s.b + r.b, s.c + r.c, s.d + r.d, s.e + r.e⟩

/-- Takes all blocks in, so many of them. -/
def takeBlocks : Nat → State → List UInt32 → State
  | 0, s, _ => s
  | n + 1, s, ws => takeBlocks n (takeBlock s (ws.take 16)) (ws.drop 16)

/-- The digest of a message, as twenty bytes. -/
def digest (message : List UInt8) : List UInt8 :=
  let ws := words (pad message)
  let s := takeBlocks (ws.length / 16) start ws
  [s.a, s.b, s.c, s.d, s.e].flatMap fun w => Bytes.ofNat 4 w.toNat

end BackendMonitor.Digest.Sha1
