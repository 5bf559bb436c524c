import SymbolicFrame.Edit.Editor

/-!
# Edits of the local variables

A wide value in a local takes the next local too, which is empty while the value stands. Storing
into a local empties a wide value right below it, whose second slot is overwritten.
-/

namespace SymbolicFrame.EditM

/-- Refuse locals that are not all there. The refusal names the last local asked for. -/
def checkLocalRange (index width : UInt64) : EditM Unit := do
  let maxLocals := (← frame).maxLocals
  let fits := match Word.add? index width with
    | some stop => decide (stop.toNat ≤ maxLocals)
    | none => false
  unless fits do
    fault (.localIndexOutOfRange (Word.addCapped index (max width 1 - 1)).toNat maxLocals)

/-- Read a value of a kind from a local. -/
def loadLocal (index : UInt64) (kind : Kind) : EditM Value := do
  if kind.isVoid then refuse .voidKind
  checkLocalRange index kind.slotWidth.toUInt64
  match ← readLocal index.toNat with
  | none => fault (.missingValue index.toNat)
  | some value =>
    if kind.isWide then
      let high ← sum index.toNat 1
      if (← readLocal high).isSome then fault (.corruptHighWord high)
    checkKind kind value
    return value

/-- Write a value of a kind to a local, with an empty slot above it if the kind is wide. -/
def storeLocal (index : UInt64) (kind : Kind) (value : Value) : EditM Unit := do
  checkStorable kind
  checkKind kind value
  checkLocalRange index kind.slotWidth.toUInt64
  if 0 < index.toNat then
    let below ← difference index.toNat 1
    if Slot.holdsWide (← readLocal below) then writeLocal below none
  writeLocal index.toNat (some value)
  if kind.isWide then writeLocal (← sum index.toNat 1) none

/-- Empty a local. -/
def invalidateLocal (index : UInt64) : EditM Unit := do
  checkLocalRange index 1
  writeLocal index.toNat none

/-- Empty every local. -/
def clearLocals : EditM Unit := emptyLocals

/-- The number of locals that parameters take from a local on, if each of them may be held. -/
def parametersEnd (index : Nat) : List Value → EditM Nat
  | [] => return index
  | parameter :: rest => do
    checkStorable parameter.kind
    parametersEnd (← sum index parameter.kind.slotWidth) rest

/-- Store parameters one after the other from a local on. -/
def storeFrom (index : Nat) : List Value → EditM Unit
  | [] => return
  | parameter :: rest => do
    storeLocal index.toUInt64 parameter.kind parameter
    storeFrom (← sum index parameter.kind.slotWidth) rest

/-- Store parameters into consecutive locals from local zero on, each under its own kind. -/
def storeParameters (parameters : List Value) : EditM Unit := do
  let width ← parametersEnd 0 parameters
  checkLocalRange 0 width.toUInt64
  storeFrom 0 parameters

end SymbolicFrame.EditM
