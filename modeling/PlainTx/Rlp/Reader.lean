/-
**Reading items from the wire.**

The reader is strict about heads: it refuses a head where a single byte would do, a length that
starts with a zero byte, and a long length for a short payload.  It is lenient in one way.  A byte
string may announce more bytes than are left; it then holds those that are left, but still counts
with its announced length.  For this reason the reader returns, with each item, the number of bytes
it *announces*, and what follows is looked for behind them.

Items inside a list are bounded by the end of the whole input, and only afterwards compared with
the length the list announced.  Lists are not read that are nested more deeply than the stack has
room for.

Main definitions:

* `PlainTx.Rlp.Fault` — why some bytes are no item;
* `PlainTx.Rlp.Head` and `PlainTx.Rlp.readHead` — the head of an item;
* `PlainTx.Rlp.readItem`, `PlainTx.Rlp.readItems` — an item, and the items of a list;
* `PlainTx.Rlp.decode` — the item that makes up a whole input.
-/

import PlainTx.Rlp.Item
import PlainTx.Stack

set_option relaxedAutoImplicit false
set_option autoImplicit false

namespace PlainTx.Rlp

/-- Why some bytes are no item. -/
inductive Fault where
  /-- The input is no byte string but a value of the named kind. -/
  | notBytes (kind : String)
  /-- The input ends where the first byte of an item should be. -/
  | endOfInput
  /-- A byte below 0x80 has a head of its own. -/
  | headOfSingleByte
  /-- A length is not minimal. -/
  | lengthStartsWithZero
  /-- A byte string of less than 56 bytes has a long head. -/
  | longHeadOfShortString
  /-- A list of less than 56 bytes has a long head. -/
  | longHeadOfShortList
  /-- The items of a list end behind the end it announced. -/
  | listOverrun
  /-- The input has that many more bytes than the item announces; the number is negative when the
  item announces more bytes than there are. -/
  | superfluous (count : Int)
  /-- Items are nested too deeply. -/
  | tooDeep
deriving DecidableEq

/-- The wording of a fault. -/
def Fault.message : Fault → String
  | .notBytes kind => s!"Can only decode RLP bytes, got type {kind}"
  | .endOfInput => "RLP string too short"
  | .headOfSingleByte => "Encoded as short string although single byte was possible"
  | .lengthStartsWithZero => "Length starts with zero bytes"
  | .longHeadOfShortString => "Long string prefix used for short string"
  | .longHeadOfShortList => "Long list prefix used for short list"
  | .listOverrun => "List length prefix announced a too small length"
  | .superfluous count => s!"RLP string ends with {count} superfluous bytes"
  | .tooDeep => "the items are nested too deeply"

/-- What the first byte of an item, and the length behind it, announce.  The payload starts `skip`
bytes behind the first byte. -/
inductive Head where
  /-- The first byte is the item. -/
  | single
  | string (skip length : Nat)
  | list (skip length : Nat)
deriving DecidableEq

/-- The length in the first `count` bytes, which has to be minimal and at least 56; what is missing
of these bytes is left out of the length. -/
def readLength (short : Fault) (count : Nat) (tail : Bytes) : Except Fault Nat :=
  if tail.head? = some 0 then .error .lengthStartsWithZero
  else
    let length := Bytes.toNat (tail.take count)
    if length < 56 then .error short else .ok length

/-- The head of the item whose first byte is `first` and which `tail` follows. -/
def readHead (first : UInt8) (tail : Bytes) : Except Fault Head :=
  let n := first.toNat
  if n < 0x80 then .ok .single
  else if n < 0xB8 then
    if n = 0x81 then
      match tail with
      | [] => .error .endOfInput
      | x :: _ => if x.toNat < 0x80 then .error .headOfSingleByte else .ok (.string 0 1)
    else .ok (.string 0 (n - 0x80))
  else if n < 0xC0 then do
    let length ← readLength .longHeadOfShortString (n - 0xB7) tail
    return .string (n - 0xB7) length
  else if n < 0xF8 then .ok (.list 0 (n - 0xC0))
  else do
    let length ← readLength .longHeadOfShortList (n - 0xF7) tail
    return .list (n - 0xF7) length

/-- The items in the first `room` bytes, each of them read by `read`. -/
def readItems (read : Bytes → Except Fault (Item × Nat)) (b : Bytes) :
    (room : Nat) → Except Fault (List Item)
  | 0 => .ok []
  | room + 1 =>
    match read b with
    | .error fault => .error fault
    | .ok (item, size) =>
      if room < size then .error .listOverrun
      else match readItems read (b.drop (size + 1)) (room - size) with
        | .error fault => .error fault
        | .ok items => .ok (item :: items)
termination_by room => room
decreasing_by exact Nat.lt_succ_of_le (Nat.sub_le _ _)

/-- The item at the start of some bytes, and the number of bytes it announces behind its first;
`depth` is the number of levels that are left. -/
def readItem : (depth : Nat) → Bytes → Except Fault (Item × Nat)
  | 0, _ => .error .tooDeep
  | _ + 1, [] => .error .endOfInput
  | depth + 1, first :: tail =>
    match readHead first tail with
    | .error fault => .error fault
    | .ok .single => .ok (.bytes [first], 0)
    | .ok (.string skip length) => .ok (.bytes ((tail.drop skip).take length), skip + length)
    | .ok (.list skip length) =>
      match readItems (readItem depth) (tail.drop skip) length with
      | .error fault => .error fault
      | .ok items => .ok (.list items, skip + length)

/-- The item that makes up the whole input, if there is room for its levels. -/
def decode [Stack] (b : Bytes) : Except Fault Item :=
  match readItem Stack.reading b with
  | .error fault => .error fault
  | .ok (item, size) =>
    if size + 1 = b.length then .ok item
    else .error (.superfluous ((b.length : Int) - (size + 1 : Nat)))

end PlainTx.Rlp
