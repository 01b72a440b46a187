/-
This file lists the patterns in the order in which they are tried.
-/

import MoveAudit.Static.Pattern

namespace MoveAudit.Static

/-- The patterns, in the order in which they are tried. -/
def catalogue : List Pattern := [
  { id := "STATIC-ADMINCAP-TRANSFER"
    severity := .critical
    description := "AdminCap or OwnerCap handled by a public function - admin privileges can move"
    traces := [.followed "admincap" "transfer::public_transfer" false,
      .followed "ownercap" "transfer::public_transfer" false,
      .followed "transfer::public_transfer" "admincap" true]
    takes? := some ⟨"admin capability", ["admincap", "ownercap"]⟩ },
  { id := "STATIC-TREASURYCAP-PUBLIC"
    severity := .critical
    description := "TreasuryCap exposed in a public function - allows unlimited token minting"
    takes? := some ⟨"can mint tokens", ["treasurycap"]⟩ },
  { id := "STATIC-UPGRADECAP-TRANSFER"
    severity := .critical
    description := "UpgradeCap reachable from a public function - allows package takeover"
    traces := [.followed "upgradecap" "transfer" true, .followed "transfer" "upgradecap" true,
      .mention "package::authorize_upgrade"]
    takes? := some ⟨"can upgrade package", ["upgradecap"]⟩ },
  { id := "STATIC-GENERIC-DRAIN"
    severity := .high
    description := "Generic withdraw function with type parameter <T> - can drain any coin type"
    combined? := some .genericDrain },
  { id := "STATIC-BALANCE-DRAIN"
    severity := .high
    description :=
      "Balance extraction followed by public_transfer - funds sent out of the contract"
    traces := [.followed "balance::withdraw_all" "transfer::public_transfer" false,
      .followed "balance::split" "transfer::public_transfer" false,
      .followed "coin::from_balance" "transfer::public_transfer" false] },
  { id := "STATIC-COIN-SPLIT-TRANSFER"
    severity := .high
    description :=
      "Coin split and transfer to an arbitrary recipient - potential fund extraction"
    traces := [.followed "coin::split" "transfer::public_transfer" false,
      .followed "coin::take" "transfer::public_transfer" false]
    combined? := some .coinToAddress },
  { id := "STATIC-UNLIMITED-MINT"
    severity := .high
    description := "Minting capability detected"
    traces := [.typedCall "coin::mint", .mention "coin::mint_and_transfer",
      .mention "balance::increase_supply", .mention "supply::increase"] },
  { id := "STATIC-SHARED-MUT-NO-CAP"
    severity := .medium
    description := "Shared object mutation without capability check - anyone can modify state"
    combined? := some .mutationWithoutCapability },
  { id := "STATIC-DYNAMIC-FIELD-ADD"
    severity := .medium
    description := "Dynamic field addition in a public function - can inject arbitrary data"
    traces := [.mention "dynamic_field::add", .mention "dynamic_object_field::add"] },
  { id := "STATIC-CLOCK-DEPENDENT"
    severity := .medium
    description := "Clock-based logic detected - time manipulation risk"
    traces := [.mention "clock::timestamp_ms"]
    takes? := some ⟨"time-based logic", ["::clock::clock"]⟩ },
  { id := "STATIC-PAUSE-CONTROL"
    severity := .medium
    description := "Pause/freeze mechanism detected - admin can halt operations"
    traces := [.wordWith ["pause", "freeze", "frozen", "halt"]] },
  { id := "STATIC-FEE-MANIPULATION"
    severity := .medium
    description := "Fee setting function detected - fees can be changed arbitrarily"
    combined? := some .feeSetter },
  { id := "STATIC-MISSING-EVENTS"
    severity := .low
    description := "Critical operation without event emission - reduces transparency"
    combined? := some .missingEvents } ]

end MoveAudit.Static
