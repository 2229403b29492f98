namespace BandedPalette.Digest

abbrev Word := UInt32

def rotateRight (word : Word) (count : Word) : Word :=
  (word >>> count) ||| (word <<< (32 - count))

def initial : Vector Word 8 :=
  #v[0x6A09E667, 0xBB67AE85, 0x3C6EF372, 0xA54FF53A, 0x510E527F, 0x9B05688C, 0x1F83D9AB,
    0x5BE0CD19]

/-- Where each word of a round's message comes from in the round before. -/
def permutation : Vector (Fin 16) 16 :=
  #v[2, 6, 3, 10, 7, 0, 4, 13, 1, 11, 12, 5, 9, 14, 15, 8]

def mix (a b c d : Fin 16) (first second : Word) (state : Vector Word 16) : Vector Word 16 :=
  let state := state.set a (state[a] + state[b] + first)
  let state := state.set d (rotateRight (state[d] ^^^ state[a]) 16)
  let state := state.set c (state[c] + state[d])
  let state := state.set b (rotateRight (state[b] ^^^ state[c]) 12)
  let state := state.set a (state[a] + state[b] + second)
  let state := state.set d (rotateRight (state[d] ^^^ state[a]) 8)
  let state := state.set c (state[c] + state[d])
  state.set b (rotateRight (state[b] ^^^ state[c]) 7)

def round (message state : Vector Word 16) : Vector Word 16 :=
  let state := mix 0 4 8 12 message[0] message[1] state
  let state := mix 1 5 9 13 message[2] message[3] state
  let state := mix 2 6 10 14 message[4] message[5] state
  let state := mix 3 7 11 15 message[6] message[7] state
  let state := mix 0 5 10 15 message[8] message[9] state
  let state := mix 1 6 11 12 message[10] message[11] state
  let state := mix 2 7 8 13 message[12] message[13] state
  mix 3 4 9 14 message[14] message[15] state

def permute (message : Vector Word 16) : Vector Word 16 :=
  permutation.map fun source => message[source]

def rounds : Nat → Vector Word 16 → Vector Word 16 → Vector Word 16
  | 0, _, state => state
  | count + 1, message, state => rounds count (permute message) (round message state)

def words (block : List UInt8) : Vector Word 16 :=
  Vector.ofFn fun place =>
    let byte (offset : Nat) : Word := (block.getD (4 * place.val + offset) 0).toUInt32
    byte 0 ||| (byte 1 <<< 8) ||| (byte 2 <<< 16) ||| (byte 3 <<< 24)

/-- The marks of a block that starts, ends and is the whole tree. -/
def soleBlock : Word := 11

def compress (block : List UInt8) : Vector Word 8 :=
  let size := UInt32.ofNat block.length
  let state : Vector Word 16 := initial ++ #v[initial[0], initial[1], initial[2], initial[3],
    0, 0, size, soleBlock]
  let state := rounds 7 (words block) state
  Vector.ofFn fun (place : Fin 8) => state[place.val] ^^^ state[place.val + 8]

def wordBytes (word : Word) : List UInt8 :=
  [word.toUInt8, (word >>> 8).toUInt8, (word >>> 16).toUInt8, (word >>> 24).toUInt8]

/-- The thirty-two bytes of the BLAKE3 digest of a message of at most one block, which
is a tree of a single node. -/
def ofBlock (block : List UInt8) (_fits : block.length ≤ 64) : List UInt8 :=
  (compress block).toList.flatMap wordBytes

end BandedPalette.Digest
