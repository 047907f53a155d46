import Mathlib.Data.Int.ConditionallyCompleteOrder
import Mathlib.Data.Prod.Lex
import Mathlib.Order.ConditionallyCompleteLattice.Basic
import Bongtalk.Messages.Message

/-!
# Cursors

A page of a channel starts behind a position: a creation time and an id.
-/

namespace Bongtalk.Messages

open Prisma

/-- The position of a row in its channel, with the time in microseconds as the database has
it. -/
abbrev Position := Int ×ₗ Nat

/-- The columns behind the channel in the index `(channelId, createdAt, id)`. -/
def Message.position (message : Message) : Position :=
  toLex (message.createdAt * 1000, message.id.value)

/-- What a cursor holds, as texts. -/
structure CursorPayload where
  id : List Char
  createdAt : List Char
deriving DecidableEq, Repr

/-- The value of a hexadecimal digit. -/
def hexValue (char : Char) : Option Nat :=
  if '0' ≤ char ∧ char ≤ '9' then some (char.toNat - '0'.toNat)
  else if 'a' ≤ char ∧ char ≤ 'f' then some (char.toNat - 'a'.toNat + 10)
  else if 'A' ≤ char ∧ char ≤ 'F' then some (char.toNat - 'A'.toNat + 10)
  else none

/-- The number that hexadecimal digits write, behind the digits read so far. -/
def hexNumber (read : Nat) : List Char → Option Nat
  | [] => some read
  | char :: rest => (hexValue char).bind fun digit => hexNumber (16 * read + digit) rest

/-- `text::uuid`, of a text that has the shape of one. -/
def uuid (text : List Char) : Option Nat :=
  hexNumber 0 (text.filter (· ≠ '-'))

end Bongtalk.Messages
