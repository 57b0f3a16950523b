namespace Playback.Compression

/-- The chaining words carry the digest from one block to the next. -/
abbrev Chaining := Vector UInt32 8

/-- A block holds sixteen little endian words of input. -/
abbrev Block := Vector UInt32 16

def start : Chaining :=
  #v[0x6A09E667, 0xBB67AE85, 0x3C6EF372, 0xA54FF53A,
     0x510E527F, 0x9B05688C, 0x1F83D9AB, 0x5BE0CD19]

def rotateRight (word count : UInt32) : UInt32 :=
  (word >>> count) ||| (word <<< (32 - count))

/-- One quarter round mixes two message words into four state words. -/
def mix (state : Block) (a b c d : Fin 16) (first second : UInt32) : Block :=
  let wordA := state[a] + state[b] + first
  let wordD := rotateRight (state[d] ^^^ wordA) 16
  let wordC := state[c] + wordD
  let wordB := rotateRight (state[b] ^^^ wordC) 12
  let wordA := wordA + wordB + second
  let wordD := rotateRight (wordD ^^^ wordA) 8
  let wordC := wordC + wordD
  let wordB := rotateRight (wordB ^^^ wordC) 7
  (((state.set a wordA).set b wordB).set c wordC).set d wordD

/-- A round mixes the four columns and then the four diagonals. -/
def round (state message : Block) : Block :=
  let state := mix state 0 4 8 12 message[0] message[1]
  let state := mix state 1 5 9 13 message[2] message[3]
  let state := mix state 2 6 10 14 message[4] message[5]
  let state := mix state 3 7 11 15 message[6] message[7]
  let state := mix state 0 5 10 15 message[8] message[9]
  let state := mix state 1 6 11 12 message[10] message[11]
  let state := mix state 2 7 8 13 message[12] message[13]
  mix state 3 4 9 14 message[14] message[15]

/-- The message words change places between two rounds. -/
def permute (message : Block) : Block :=
  #v[message[2], message[6], message[3], message[10],
     message[7], message[0], message[4], message[13],
     message[1], message[11], message[12], message[5],
     message[9], message[14], message[15], message[8]]

def rounds : Nat → Block → Block → Block
  | 0, state, _ => state
  | count + 1, state, message => rounds count (round state message) (permute message)

/-- The seven rounds start from the chaining words, four fixed words, the counter, the number of
input bytes and the flags. The two halves of the last state are then folded together. -/
def compress (chaining : Chaining) (message : Block) (counter : UInt64)
    (length flags : UInt32) : Chaining :=
  let state := rounds 7
    #v[chaining[0], chaining[1], chaining[2], chaining[3],
       chaining[4], chaining[5], chaining[6], chaining[7],
       start[0], start[1], start[2], start[3],
       counter.toUInt32, (counter >>> 32).toUInt32, length, flags]
    message
  Vector.ofFn fun index : Fin 8 => state[index.val] ^^^ state[index.val + 8]

end Playback.Compression
