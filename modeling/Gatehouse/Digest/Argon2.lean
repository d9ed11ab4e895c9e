import Gatehouse.Digest.Blake2b

/-!
# Argon2

The password hash Argon2 in its three variants and two versions. It fills a memory of blocks, each of
which is made from the block in front of it and one that depends on the password or on the position.

* `fillBlock` makes a new block from two others.
* `Argon2.tag?` is the hash; `length_tag?` says that it has the length that was asked for.
-/

namespace Gatehouse.Digest.Argon2

open Blake2b (Sixteen littleEndian rotate)

/-- The three variants: which blocks are chosen by the password, and which by position only. -/
inductive Kind
  /-- All by the password. -/
  | dependent
  /-- All by position. -/
  | independent
  /-- By position in the first half of the first pass, and by the password from then on. -/
  | hybrid
  deriving DecidableEq, Repr

/-- The number of a variant. -/
def Kind.code : Kind → Nat
  | dependent => 0
  | independent => 1
  | hybrid => 2

/-- The cost of a hash and what else goes into it beside salt and password. -/
structure Params where
  kind : Kind
  version : Nat
  /-- The memory in blocks of 1024 bytes. -/
  memory : Nat
  passes : Nat
  lanes : Nat
  /-- The length of the tag in bytes. -/
  tagLength : Nat
  associated : Bytes
  deriving DecidableEq

/-! ### Blocks -/

/-- A block of 1024 bytes as eight rows of sixteen words. -/
structure Block where
  r0 : Sixteen
  r1 : Sixteen
  r2 : Sixteen
  r3 : Sixteen
  r4 : Sixteen
  r5 : Sixteen
  r6 : Sixteen
  r7 : Sixteen

namespace Block

def rows (b : Block) : List Sixteen := [b.r0, b.r1, b.r2, b.r3, b.r4, b.r5, b.r6, b.r7]

def words (b : Block) : List UInt64 := b.rows.flatMap Sixteen.words

def ofWords (words : List UInt64) : Block :=
  let r (n : Nat) : Sixteen := Sixteen.ofWords (words.drop (16 * n))
  ⟨r 0, r 1, r 2, r 3, r 4, r 5, r 6, r 7⟩

def zero : Block :=
  let r := Sixteen.fill 0
  ⟨r, r, r, r, r, r, r, r⟩

/-- The sum of two blocks without carry. -/
def xor (b c : Block) : Block :=
  ⟨b.r0.xor c.r0, b.r1.xor c.r1, b.r2.xor c.r2, b.r3.xor c.r3, b.r4.xor c.r4, b.r5.xor c.r5,
    b.r6.xor c.r6, b.r7.xor c.r7⟩

@[inline]
def mapRows (f : Sixteen → Sixteen) (b : Block) : Block :=
  ⟨f b.r0, f b.r1, f b.r2, f b.r3, f b.r4, f b.r5, f b.r6, f b.r7⟩

/-- Exchanges rows and columns, where a column is two words wide. -/
def transpose (b : Block) : Block :=
  ⟨
    ⟨b.r0.w0, b.r0.w1, b.r1.w0, b.r1.w1, b.r2.w0, b.r2.w1, b.r3.w0, b.r3.w1,
      b.r4.w0, b.r4.w1, b.r5.w0, b.r5.w1, b.r6.w0, b.r6.w1, b.r7.w0, b.r7.w1⟩,
    ⟨b.r0.w2, b.r0.w3, b.r1.w2, b.r1.w3, b.r2.w2, b.r2.w3, b.r3.w2, b.r3.w3,
      b.r4.w2, b.r4.w3, b.r5.w2, b.r5.w3, b.r6.w2, b.r6.w3, b.r7.w2, b.r7.w3⟩,
    ⟨b.r0.w4, b.r0.w5, b.r1.w4, b.r1.w5, b.r2.w4, b.r2.w5, b.r3.w4, b.r3.w5,
      b.r4.w4, b.r4.w5, b.r5.w4, b.r5.w5, b.r6.w4, b.r6.w5, b.r7.w4, b.r7.w5⟩,
    ⟨b.r0.w6, b.r0.w7, b.r1.w6, b.r1.w7, b.r2.w6, b.r2.w7, b.r3.w6, b.r3.w7,
      b.r4.w6, b.r4.w7, b.r5.w6, b.r5.w7, b.r6.w6, b.r6.w7, b.r7.w6, b.r7.w7⟩,
    ⟨b.r0.w8, b.r0.w9, b.r1.w8, b.r1.w9, b.r2.w8, b.r2.w9, b.r3.w8, b.r3.w9,
      b.r4.w8, b.r4.w9, b.r5.w8, b.r5.w9, b.r6.w8, b.r6.w9, b.r7.w8, b.r7.w9⟩,
    ⟨b.r0.w10, b.r0.w11, b.r1.w10, b.r1.w11, b.r2.w10, b.r2.w11, b.r3.w10, b.r3.w11,
      b.r4.w10, b.r4.w11, b.r5.w10, b.r5.w11, b.r6.w10, b.r6.w11, b.r7.w10, b.r7.w11⟩,
    ⟨b.r0.w12, b.r0.w13, b.r1.w12, b.r1.w13, b.r2.w12, b.r2.w13, b.r3.w12, b.r3.w13,
      b.r4.w12, b.r4.w13, b.r5.w12, b.r5.w13, b.r6.w12, b.r6.w13, b.r7.w12, b.r7.w13⟩,
    ⟨b.r0.w14, b.r0.w15, b.r1.w14, b.r1.w15, b.r2.w14, b.r2.w15, b.r3.w14, b.r3.w15,
      b.r4.w14, b.r4.w15, b.r5.w14, b.r5.w15, b.r6.w14, b.r6.w15, b.r7.w14, b.r7.w15⟩⟩

end Block

/-! ### The permutation -/

/-- The sum of two words and twice the product of their lower halves. -/
@[inline]
def mulAdd (x y : UInt64) : UInt64 := x + y + 2 * (x &&& 0xffffffff) * (y &&& 0xffffffff)

/-- Mixes four words and hands them on. -/
@[inline]
def mix {α : Type} (a b c d : UInt64) (next : UInt64 → UInt64 → UInt64 → UInt64 → α) : α :=
  let a := mulAdd a b
  let d := rotate (d ^^^ a) 32
  let c := mulAdd c d
  let b := rotate (b ^^^ c) 24
  let a := mulAdd a b
  let d := rotate (d ^^^ a) 16
  let c := mulAdd c d
  let b := rotate (b ^^^ c) 63
  next a b c d

/-- Permutes sixteen words. -/
def permute (s : Sixteen) : Sixteen :=
  mix s.w0 s.w4 s.w8 s.w12 fun v0 v4 v8 v12 =>
  mix s.w1 s.w5 s.w9 s.w13 fun v1 v5 v9 v13 =>
  mix s.w2 s.w6 s.w10 s.w14 fun v2 v6 v10 v14 =>
  mix s.w3 s.w7 s.w11 s.w15 fun v3 v7 v11 v15 =>
  mix v0 v5 v10 v15 fun v0 v5 v10 v15 =>
  mix v1 v6 v11 v12 fun v1 v6 v11 v12 =>
  mix v2 v7 v8 v13 fun v2 v7 v8 v13 =>
  mix v3 v4 v9 v14 fun v3 v4 v9 v14 =>
  ⟨v0, v1, v2, v3, v4, v5, v6, v7, v8, v9, v10, v11, v12, v13, v14, v15⟩

/-- Makes a block from two others: their sum is permuted by rows and by columns and added again. -/
def fillBlock (x y : Block) : Block :=
  let sum := x.xor y
  let mixed := ((sum.mapRows permute).transpose.mapRows permute).transpose
  sum.xor mixed

/-! ### Hashes of any length -/

/-- A number as four bytes. -/
def word32 (n : Nat) : Bytes := littleEndian 4 n

/-- The first halves of a chain of digests and the whole of the last one, which is as long as what is
still to be made. -/
def chain : (fuel : Nat) → (due : Nat) → Bytes → Bytes
  | 0, due, message => Blake2b.hash due message
  | fuel + 1, due, message =>
    if due ≤ 64 then Blake2b.hash due message
    else
      let digest := Blake2b.hash 64 message
      digest.take 32 ++ chain fuel (due - 32) digest

/-- A digest of `size` bytes. -/
def longHash (size : Nat) (message : Bytes) : Bytes := chain size size (word32 size ++ message)

def blockOf (message : Bytes) : Block :=
  Block.ofWords (Blake2b.wordsOf 128 (longHash 1024 message))

/-! ### Filling the memory -/

/-- How the memory is laid out: `lanes` rows of `4 * segment` blocks. -/
structure Layout where
  params : Params
  segment : Nat

namespace Layout

def columns (l : Layout) : Nat := 4 * l.segment

def blocks (l : Layout) : Nat := l.params.lanes * l.columns

/-- Whether the blocks of a quarter of a pass are chosen by position. -/
def byPosition (l : Layout) (pass slice : Nat) : Bool :=
  match l.params.kind with
  | .dependent => false
  | .independent => true
  | .hybrid => pass == 0 && slice < 2

/-- The words that choose the blocks from position `128 * counter` of a segment on. -/
def addresses (l : Layout) (pass lane slice counter : Nat) : Array UInt64 :=
  let seed := Block.ofWords <|
    [pass, lane, slice, l.blocks, l.params.passes, l.params.kind.code, counter + 1].map UInt64.ofNat
  (fillBlock .zero (fillBlock .zero seed)).words.toArray

/-- The index of the block that the word `choice` chooses for position `index` of a segment. -/
def reference (l : Layout) (pass lane slice index : Nat) (choice : UInt64) : Nat :=
  let target := if pass = 0 ∧ slice = 0 then lane else (choice >>> 32).toNat % l.params.lanes
  let done := if pass = 0 then slice * l.segment else l.columns - l.segment
  let area :=
    if target = lane then done + index - 1 else if index = 0 then done - 1 else done
  let low := choice.toNat % 0x100000000
  let back := area * (low * low / 0x100000000) / 0x100000000
  let first := if pass = 0 ∨ slice = 3 then 0 else (slice + 1) * l.segment
  target * l.columns + (first + (area - 1 - back)) % l.columns

/-- Fills `count` blocks of a segment up to its end. -/
def fillSegment (l : Layout) (pass lane slice : Nat) :
    (count : Nat) → Array UInt64 → Array Block → Array Block
  | 0, _, memory => memory
  | count + 1, choices, memory =>
    let index := l.segment - (count + 1)
    let column := slice * l.segment + index
    let before := lane * l.columns + (if column = 0 then l.columns - 1 else column - 1)
    let previous := memory.getD before .zero
    let byPosition := l.byPosition pass slice
    let choices :=
      if byPosition && (index % 128 == 0 || choices.isEmpty) then
        l.addresses pass lane slice (index / 128)
      else choices
    let choice := if byPosition then choices.getD (index % 128) 0 else previous.r0.w0
    let block := fillBlock previous (memory.getD (l.reference pass lane slice index choice) .zero)
    let place := lane * l.columns + column
    let block :=
      if pass = 0 ∨ l.params.version = 16 then block else block.xor (memory.getD place .zero)
    fillSegment l pass lane slice count choices (memory.setIfInBounds place block)

def fill (l : Layout) (memory : Array Block) : Array Block :=
  (List.range l.params.passes).foldl (fun memory pass =>
    (List.range 4).foldl (fun memory slice =>
      (List.range l.params.lanes).foldl (fun memory lane =>
        let count := if pass = 0 ∧ slice = 0 then l.segment - 2 else l.segment
        l.fillSegment pass lane slice count #[] memory) memory) memory) memory

end Layout

/-! ### The tag -/

/-- The digest of everything that goes into a hash. -/
def seedDigest (p : Params) (salt password : Bytes) : Bytes :=
  Blake2b.hash 64 <|
    word32 p.lanes ++ word32 p.tagLength ++ word32 p.memory ++ word32 p.passes ++ word32 p.version ++
      word32 p.kind.code ++ word32 password.length ++ password ++ word32 salt.length ++ salt ++
      word32 0 ++ word32 p.associated.length ++ p.associated

/-- The memory with the first two blocks of every lane set. -/
def startMemory (l : Layout) (seed : Bytes) : Array Block :=
  (List.range l.params.lanes).foldl (fun memory lane =>
    [0, 1].foldl (fun memory column =>
      memory.setIfInBounds (lane * l.columns + column) <|
        blockOf (seed ++ word32 column ++ word32 lane)) memory)
    (Array.replicate l.blocks .zero)

/-- The sum of the last blocks of all lanes. -/
def lastBlocks (l : Layout) (memory : Array Block) : Block :=
  (List.range l.params.lanes).foldl (fun sum lane =>
    sum.xor (memory.getD (lane * l.columns + (l.columns - 1)) .zero)) .zero

/-- The tag of a password that is not too long to be counted in 32 bits. -/
def tag? (p : Params) (salt password : Bytes) : Option Bytes :=
  if 0x100000000 ≤ password.length then none
  else
    let layout : Layout := ⟨p, p.memory / (4 * p.lanes)⟩
    let memory := layout.fill (startMemory layout (seedDigest p salt password))
    let final := (lastBlocks layout memory).words.flatMap fun w => littleEndian 8 w.toNat
    let digest := (longHash p.tagLength final).toArray
    some ((List.range p.tagLength).map fun n => digest.getD n 0)

theorem length_tag? {p : Params} {salt password tag : Bytes} (h : tag? p salt password = some tag) :
    tag.length = p.tagLength := by
  unfold tag? at h
  split at h
  · cases h
  · cases h
    simp

end Gatehouse.Digest.Argon2
