import SpxSpark.Ledger.Schema

/-!
# Ownership — exclusive, generation-fenced runtime roles

A role has at most one owner row. `acquireOwner` keeps the generation of its own live lease and
raises it over a dead one; every other operation only asks whether the lease in hand still is the
row, `holdsRole`.
-/

open SpxSpark.Domain SpxSpark.Lib

namespace SpxSpark.Ledger

variable {D : Type}

def maxI64 : Int := 9223372036854775807

/-- `owner_id.trim().len()` within 16..=128 bytes. -/
def validOwnerId (ownerId : String) : Bool :=
  let bytes := (String.ofList (trim ownerId)).utf8ByteSize
  16 ≤ bytes && bytes ≤ 128

/-- The generation `acquire_owner` issues over the stored row. -/
def issuedGeneration (role : OwnerRole) (ownerId : String) (now : DateTime) :
    Option StoredOwner → Except LedgerError Int
  | none => .ok 1
  | some r =>
    if r.val.active ∧ r.val.ownerId = ownerId ∧ micros now < r.val.leaseUntilUs then
      .ok r.val.generation
    else if r.val.active = false ∨ r.val.leaseUntilUs ≤ micros now then do
      require (r.val.generation + 1 ≤ maxI64) (.invalidValue "owner generation overflow")
      .ok (r.val.generation + 1)
    else .error (.ownerLeaseLost role)

/-- Stores an owner row if it passes its CHECK. -/
def putOwner (role : OwnerRole) (row : OwnerRow) : LedgerM D Unit :=
  if h : row.check = true then
    modify fun s => { s with runtimeOwners := Function.update s.runtimeOwners role (some ⟨row, h⟩) }
  else throw (.sqlite (.constraint .check))

def acquireOwner (role : OwnerRole) (ownerId : String) (now : DateTime)
    (leaseDuration : TimeDelta) : LedgerM D OwnerLease := do
  Txn.ensure (validOwnerId ownerId) (.invalidValue "owner_id")
  let leaseUntil ← Txn.ofOption .invalidTimestamp (checkedAddSigned now leaseDuration)
  Txn.ensure (now < leaseUntil) (.invalidValue "owner lease duration")
  let s ← get
  let generation ← Txn.ofExcept (issuedGeneration role ownerId now (s.runtimeOwners role))
  putOwner role
    { ownerId, generation
      active := true
      acquiredAtUs := micros now
      heartbeatAtUs := micros now
      leaseUntilUs := micros leaseUntil }
  pure { role, ownerId, generation, leaseUntil }

/-- The lease is the stored row: same owner and generation, active and not expired. -/
def holdsRole (s : Ledger D) (lease : OwnerLease) (now : DateTime) : Bool :=
  (s.runtimeOwners lease.role).any fun r =>
    r.val.ownerId == lease.ownerId && r.val.generation == lease.generation && r.val.active &&
      micros now < r.val.leaseUntilUs

def renewOwner (lease : OwnerLease) (now : DateTime) (leaseDuration : TimeDelta) :
    LedgerM D OwnerLease := do
  let leaseUntil ← Txn.ofOption .invalidTimestamp (checkedAddSigned now leaseDuration)
  let s ← get
  Txn.ensure (holdsRole s lease now) (.ownerLeaseLost lease.role)
  let row ← queryRow (s.runtimeOwners lease.role)
  putOwner lease.role
    { row.val with heartbeatAtUs := micros now, leaseUntilUs := micros leaseUntil }
  pure { lease with leaseUntil }

def refreshOwner (lease : OwnerLease) (now : DateTime) (leaseDuration : TimeDelta) :
    LedgerM D OwnerLease :=
  if now < lease.leaseUntil then renewOwner lease now leaseDuration
  else acquireOwner lease.role lease.ownerId now leaseDuration

def releaseOwner (lease : OwnerLease) : LedgerM D Unit := do
  let s ← get
  Txn.ensure ((s.runtimeOwners lease.role).any fun r =>
      r.val.ownerId == lease.ownerId && r.val.generation == lease.generation && r.val.active)
    (.ownerLeaseLost lease.role)
  let row ← queryRow (s.runtimeOwners lease.role)
  putOwner lease.role { row.val with active := false }

def requireOwnerInTransaction (lease : OwnerLease) (expected : OwnerRole) (now : DateTime) :
    LedgerM D Unit := do
  Txn.ensure (lease.role = expected) (.ownerRoleMismatch expected lease.role)
  let s ← get
  Txn.ensure (holdsRole s lease now) (.ownerLeaseLost lease.role)

end SpxSpark.Ledger
