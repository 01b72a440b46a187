/-
This file holds the knowledge base that is used when no other one is given: the known patterns of
packages on the Sui network, and the rules that findings are scored by.
-/

import MoveAudit.Knowledge.Base

namespace MoveAudit.KnowledgeBase

/-! ### Patterns -/

/-- Admin Drain / Unrestricted Withdraw. -/
def critical01 : RiskPattern :=
  { id := "CRITICAL-01"
    name := "Admin Drain / Unrestricted Withdraw"
    severity := .critical
    range := (90, 100)
    points := 95
    description :=
      "Allows an admin/owner to unilaterally withdraw all or significant user/protocol " ++
        "funds (native SUI, bridged assets, valuable NFTs) from the contract. This is the " ++
        "most direct rug pull mechanism."
    indicators := [
      "Functions taking admin Capability (e.g., AdminCap, TreasuryCap, OwnerCap)",
      "Interacting with Balance<T> or Coin<T> state",
      "Calling transfer::public_transfer or internal balance logic without user " ++
        "permission checks",
      "Keywords: withdraw, emergency_withdraw, drain, sweep, collect_all_fees, " ++
        "migrate_funds, rescue_funds",
      "Functions named ambiguously (e.g., maintain, cleanup) that operate on core balance " ++
        "objects"]
    aliases := ["owner_can_withdraw_all", "admin_drain", "unrestricted_withdraw"]
    modifiers := [
      ⟨"+", "If multiple withdrawal functions exist"⟩,
      ⟨"+", "If function can withdraw any Coin type (generic)"⟩,
      ⟨"-", "If withdrawal is subject to a mandatory, non-bypassable Timelock"⟩,
      ⟨"-", "If withdrawal requires multi-sig approval verified on-chain"⟩] }

/-- Unrestricted Code Upgrade. -/
def critical02 : RiskPattern :=
  { id := "CRITICAL-02"
    name := "Unrestricted Code Upgrade"
    severity := .critical
    range := (95, 100)
    points := 97
    description :=
      "Allows an admin to change the contract's code arbitrarily and instantly without " ++
        "governance or delay. Can introduce backdoors, change rules, or steal funds."
    indicators := [
      "Functions taking UpgradeCap",
      "Calling package::authorize_upgrade, package::commit_upgrade",
      "Similar system functions related to package upgrades",
      "Controlled solely by an admin",
      "Keywords: upgrade, update_version, migrate, set_implementation"]
    aliases := ["unrestricted_upgrade", "malicious_upgrade", "proxy_upgradeability"]
    modifiers := [
      ⟨"-", "If upgrade requires on-chain multi-sig approval"⟩,
      ⟨"-", "If upgrade is subject to a mandatory, non-bypassable Timelock"⟩] }

/-- Unlimited Token Minting. -/
def high01 : RiskPattern :=
  { id := "HIGH-01"
    name := "Unlimited Token Minting"
    severity := .high
    range := (70, 90)
    points := 80
    description :=
      "Allows an admin to mint unlimited amounts of a primary protocol token or reward " ++
        "token, destroying its value or enabling unfair distribution/theft."
    indicators := [
      "Minting functions (coin::mint, coin::mint_and_transfer)",
      "Controlled by an admin Capability (e.g., TreasuryCap)",
      "Without verifiable checks on total supply or emission schedules",
      "Keywords: mint, issue, emission, reward"]
    aliases := ["unlimited_minting", "infinite_mint"]
    modifiers := [
      ⟨"+", "If minting can be directed to an arbitrary address"⟩,
      ⟨"+", "If applied to the main governance/utility token"⟩,
      ⟨"-", "If minting is clearly for rewards and tied to a fixed/controlled emission schedule"⟩] }

/-- Contract Pausing / Freezing. -/
def high02 : RiskPattern :=
  { id := "HIGH-02"
    name := "Contract Pausing / Freezing"
    severity := .high
    range := (65, 85)
    points := 75
    description :=
      "Allows an admin to halt all or critical contract functions (transfers, " ++
        "withdrawals, swaps), trapping user funds indefinitely."
    indicators := [
      "A global bool state (e.g., is_paused) checked in critical functions",
      "Changeable only by an admin",
      "Keywords: pause, unpause, paused, freeze, halt, emergency_stop"]
    aliases := ["can_pause_contract", "pausable_contract", "contract_freezing"]
    modifiers := [
      ⟨"+", "If pausing affects core withdrawal/transfer functions"⟩,
      ⟨"-", "If pausing only affects secondary features (e.g., new deposits, rewards claiming)"⟩,
      ⟨"-", "If there's a clear, non-admin controlled unpause mechanism (e.g., time-based)"⟩]
    isPausing := true }

/-- Arbitrary Fee Manipulation. -/
def high03 : RiskPattern :=
  { id := "HIGH-03"
    name := "Arbitrary Fee Manipulation"
    severity := .high
    range := (60, 80)
    points := 70
    description :=
      "Allows an admin to arbitrarily change critical fee parameters (e.g., swap fees, " ++
        "withdrawal fees, protocol fees) to excessive levels, siphoning user funds or " ++
        "making the protocol unusable."
    indicators := [
      "Functions controlled by admin capability that modify fee rate variables (u64, " ++
        "u128, percentages)",
      "Used in core financial logic without reasonable limits",
      "Keywords: set_fee, update_rate, protocol_fee, admin_fee, fee_percent"]
    aliases := ["fee_manipulation", "arbitrary_fees", "unfair_fees"]
    modifiers := [
      ⟨"+", "If fees can be set to 100% or extremely high values"⟩,
      ⟨"+", "If applied to core functions like swapping or withdrawing"⟩,
      ⟨"-", "If changes are subject to a Timelock"⟩] }

/-- Centralized Access Control / Role Bypass. -/
def high04 : RiskPattern :=
  { id := "HIGH-04"
    name := "Centralized Access Control / Role Bypass"
    severity := .high
    range := (60, 85)
    points := 72
    description :=
      "Flaws allowing admins to grant themselves or others excessive power, remove other " ++
        "admins, bypass multi-sig, or gain unauthorized access."
    indicators := [
      "Functions allowing adding/removing admins (add_role, remove_member)",
      "Setting arbitrary roles (set_roles)",
      "Role assignment logic errors",
      "Lack of multi-sig checks for critical admin actions",
      "Keywords: role, admin, owner, grant, revoke, acl, require_admin, is_owner"]
    aliases := ["access_control_bypass", "role_bypass", "centralized_control"]
    modifiers := [
      ⟨"+", "If a single admin can remove other admins or bypass multi-sig"⟩,
      ⟨"+", "If roles grant access to Critical functions (Withdraw, Upgrade)"⟩,
      ⟨"-", "If roles are granular and follow least privilege principle"⟩] }

/-- Oracle Manipulation Risk. -/
def medium01 : RiskPattern :=
  { id := "MEDIUM-01"
    name := "Oracle Manipulation Risk"
    severity := .medium
    range := (30, 60)
    points := 45
    description :=
      "Protocol relies on potentially manipulable price oracles for critical operations."
    indicators := [
      "Use of single-source DEX pool prices (sqrt_price)",
      "Especially from low-liquidity pools",
      "Without TWAP or multiple oracle validation",
      "Keywords: oracle, price, feed, get_price"]
    aliases := ["oracle_manipulation_risk", "price_feed_risk"]
    modifiers := [
      ⟨"+", "If used for liquidations or high-value swaps"⟩,
      ⟨"-", "If using reputable oracle providers (e.g., Pyth, Switchboard) correctly"⟩,
      ⟨"-", "If using robust TWAP mechanisms"⟩] }

/-- Timestamp Dependence. -/
def medium02 : RiskPattern :=
  { id := "MEDIUM-02"
    name := "Timestamp Dependence"
    severity := .medium
    range := (20, 40)
    points := 30
    description :=
      "Critical logic relies directly on block timestamps."
    indicators := [
      "Logic based directly on sui::clock::timestamp_ms()",
      "Keywords: timestamp, clock, now"]
    aliases := ["timestamp_dependence", "block_time_risk"]
    modifiers := [
      ⟨"+", "If used for unlocking large funds or critical state changes"⟩,
      ⟨"-", "If used for non-critical things like reward calculations over short periods"⟩] }

/-- Reentrancy Potential (Move Context). -/
def medium03 : RiskPattern :=
  { id := "MEDIUM-03"
    name := "Reentrancy Potential (Move Context)"
    severity := .medium
    range := (25, 55)
    points := 40
    description :=
      "Potential for re-entry attacks via external calls before state updates, especially " ++
        "with shared objects or complex callbacks."
    indicators := [
      "Pattern: Read state -> Call external -> Write state",
      "Especially involving receive-style functions or shared object mutations",
      "Keywords: External calls, shared objects, callbacks"]
    aliases := ["reentrancy_risk", "reentrancy_potential"]
    modifiers := [
      ⟨"+", "If the external call is to an arbitrary/untrusted address"⟩,
      ⟨"-", "If Move's object ownership model inherently prevents the specific reentrancy vector"⟩] }

/-- Flash Loan Logic Exploit Risk. -/
def medium04 : RiskPattern :=
  { id := "MEDIUM-04"
    name := "Flash Loan Logic Exploit Risk"
    severity := .medium
    range := (30, 60)
    points := 45
    description :=
      "Internal logic within flash loan callbacks might be exploitable."
    indicators := [
      "Complex state changes, price calculations, or balance updates inside flash loan " ++
        "execution paths",
      "Keywords: flash_loan, flash_swap, repay, Receipt"]
    aliases := ["flash_loan_logic_exploit", "flash_loan_risk"]
    modifiers := [
      ⟨"+", "If exploitable logic involves core price or balance calculations"⟩,
      ⟨"-", "If logic is simple and only involves basic checks/repayment"⟩] }

/-- Integer Overflow/Underflow Risk (Potential). -/
def low01 : RiskPattern :=
  { id := "LOW-01"
    name := "Integer Overflow/Underflow Risk (Potential)"
    severity := .low
    range := (5, 15)
    points := 10
    description :=
      "Potential for math errors in complex calculations if safe math isn't used. (Move " ++
        "is generally safe)."
    indicators := [
      "Highly complex arithmetic logic",
      "Especially if not using standard libraries",
      "Keywords: balance, amount, complex formulas"]
    aliases := ["integer_overflow_underflow_risk", "math_safety"]
    modifiers := [
      ⟨"+", "If complex math involves critical financial calculations"⟩,
      ⟨"-", "If standard safe math practices are clearly used"⟩] }

/-- Denial of Service (DoS) Potential. -/
def low02 : RiskPattern :=
  { id := "LOW-02"
    name := "Denial of Service (DoS) Potential"
    severity := .low
    range := (5, 20)
    points := 12
    description :=
      "Potential for users/attackers to block or impede contract usage for others."
    indicators := [
      "Unbounded loops",
      "Unbounded vector pushes based on user input",
      "Gas-heavy operations exploitable by attackers",
      "Keywords: vector, loop, while"]
    aliases := ["denial_of_service_risk", "dos_potential"]
    modifiers := [
      ⟨"+", "If DoS can block critical functions like withdrawals"⟩,
      ⟨"-", "If DoS only affects minor features or is easily mitigated"⟩] }

/-- Misleading Event Emission / Lack of Events. -/
def low03 : RiskPattern :=
  { id := "LOW-03"
    name := "Misleading Event Emission / Lack of Events"
    severity := .low
    range := (5, 10)
    points := 7
    description :=
      "Events emitted might be inaccurate, misleading, or missing for critical state " ++
        "changes, hindering off-chain monitoring."
    indicators := [
      "Critical actions (admin changes, fund movements) happen without corresponding " ++
        "event::emit",
      "Event data doesn't match state changes",
      "Keywords: event::emit"]
    aliases := ["event_emission_issues", "missing_events"]
    modifiers := [
      ⟨"+", "If missing events hide critical fund movements"⟩] }

/-! ### Rules -/

/-- Points for findings of unknown patterns, negations, keyword rules, bonuses and bounds. -/
def bundledScoring : ScoringRules :=
  { points := [(.critical, 50), (.high, 20), (.medium, 5), (.low, 1)]
    negations := ["no", "not", "without", "lack", "lacks", "lacking", "missing", "absent", "none",
      "bypass", "bypasses", "bypassed"]
    window := 3
    trailingNegations := ["not", "none", "absent", "missing", "lacking", "bypassable", "bypassed",
      "disabled"]
    negatingPrefixes := ["non"]
    rules := [
      { name := "mitigation"
        delta := -30
        keywords := ["timelock", "time-lock", "time lock", "multi-sig", "multisig", "multi sig",
          "internal-only", "internal only"]
        severities := [.critical, .high] },
      { name := "aggravation"
        delta := 10
        keywords := ["generic", "any coin type", "arbitrary recipient", "arbitrary address",
          "instant upgrade", "instantly upgrade", "upgraded instantly", "without governance",
          "ungoverned"] },
      { name := "simple_logic"
        delta := 5
        keywords := ["simple/direct", "logic seems simple", "simple logic", "direct logic",
          "straightforward"]
        severities := [.critical, .high] },
      { name := "complex_logic"
        delta := -5
        keywords := ["complex/conditional", "logic is complex", "complex logic",
          "conditional logic"]
        severities := [.critical, .high] }]
    combinations := ⟨90, 5, 3, 10, 5⟩
    certainty := ⟨75, 25⟩ }

/-- The knowledge base that is used when no other one is given. -/
def bundled : KnowledgeBase :=
  { version := .number 3
    patterns := [critical01, critical02, high01, high02, high03, high04, medium01, medium02,
      medium03, medium04, low01, low02, low03]
    scoring := bundledScoring }

/-- The knowledge base itself, or the bundled one when it has no patterns. -/
def orBundled (base : KnowledgeBase) : KnowledgeBase :=
  if base.patterns.isEmpty then bundled else base

theorem orBundled_of_patterns {base : KnowledgeBase} (hasPatterns : base.patterns ≠ []) :
    base.orBundled = base :=
  if_neg fun isEmpty => hasPatterns (List.isEmpty_iff.mp isEmpty)

theorem orBundled_of_no_patterns {base : KnowledgeBase} (noPatterns : base.patterns = []) :
    base.orBundled = bundled :=
  if_pos (List.isEmpty_iff.mpr noPatterns)

end MoveAudit.KnowledgeBase
