import Mathlib.Data.List.Nodup
import AindyRuntime.Auth.Tokens
import AindyRuntime.Lib.Sessions

/-! # Revocation

Any number of logins, logouts, password changes and resets of one user, each
with a session of its own.
-/

namespace AindyRuntime.Auth.Revocation

open StepSystem

inductive Request where
  | login (password : String)
  | logout (token : Token)
  | changePassword (token : Token) (currentPassword newPassword : String)
  | forgotPassword
  | resetPassword (token : Token) (newPassword : String)
  /-- `/admin/invalidate-sessions` -/
  | invalidateSessions
deriving DecidableEq, Repr

namespace Request

def bearer? : Request → Option Token
  | .logout token | .changePassword token _ _ => some token
  | _ => none

def resetToken? : Request → Option Token
  | .resetPassword token _ => some token
  | _ => none

def mints? : Request → Option Purpose
  | .login _ | .changePassword .. => some .access
  | .forgotPassword => some .passwordReset
  | _ => none

def commits : Request → Bool
  | .login _ | .forgotPassword => false
  | _ => true

variable {Hash : Type}

def handle (passwords : Passwords Hash) : Request → User Hash → Except HTTPException (User Hash)
  | .login password, user => authenticateUser passwords password (some user)
  | .logout _, user => .ok user.bumpTokenVersion
  | .changePassword _ currentPassword newPassword, user =>
    changeUserPassword passwords currentPassword newPassword (some user)
  | .forgotPassword, user => .ok user
  | .resetPassword token newPassword, user => resetPasswordWithToken passwords token newPassword (some user)
  | .invalidateSessions, user => .ok user.bumpTokenVersion

end Request

inductive Phase (Hash : Type) where
  | idle
  | authenticated
  | handled (assigned : User Hash)
  | committed
  | refreshed
  | done
  | failed (error : HTTPException)

structure Issue where
  token : Token
  bumps : Nat
deriving DecidableEq, Repr

structure World (Call Hash : Type) where
  sessions : Sessions Call (User Hash)
  phase : Call → Phase Hash
  issued : List Issue
  /-- The reset tokens that have set a password. -/
  consumed : List Token
  /-- The commits that bumped the version. -/
  bumps : Nat

structure Setting (Call Hash : Type) where
  passwords : Passwords Hash
  request : Call → Request

inductive Action (Call : Type) where
  /-- The query of `get_current_user`. -/
  | authenticate (call : Call)
  /-- The user of that query is no longer referenced. -/
  | collect (call : Call)
  /-- The query of the handler, and what it does up to its commit. -/
  | handle (call : Call)
  | commit (call : Call)
  | refresh (call : Call)
  | mint (call : Call)

def writeBack {Hash : Type} [DecidableEq Hash] (loaded assigned current : User Hash) : User Hash where
  hashedPassword :=
    if assigned.hashedPassword = loaded.hashedPassword then current.hashedPassword else assigned.hashedPassword
  isActive := if assigned.isActive = loaded.isActive then current.isActive else assigned.isActive
  isVerified := if assigned.isVerified = loaded.isVerified then current.isVerified else assigned.isVerified
  tokenVersion := if assigned.tokenVersion = loaded.tokenVersion then current.tokenVersion else assigned.tokenVersion

variable {Call Hash : Type} [DecidableEq Call] [DecidableEq Hash] (world : World Call Hash)

def World.minted (token : Token) : Bool := token ∈ world.issued.map Issue.token

def World.enter (call : Call) (phase : Phase Hash) : World Call Hash :=
  { world with phase := fun other => if other = call then phase else world.phase other }

def World.authenticate (call : Call) (token : Token) : World Call Hash :=
  let sessions := world.sessions.query call
  match getCurrentUser token (some (sessions.held call)) with
  | .ok _ => { world with sessions }.enter call .authenticated
  | .error error => { world with sessions }.enter call (.failed error)

variable (setting : Setting Call Hash)

def World.handle (world : World Call Hash) (call : Call) : World Call Hash :=
  let sessions := world.sessions.query call
  match (setting.request call).handle setting.passwords (sessions.held call) with
  | .ok assigned => { world with sessions }.enter call (.handled assigned)
  | .error error => { world with sessions }.enter call (.failed error)

def World.commit (world : World Call Hash) (call : Call) (assigned : User Hash) : World Call Hash :=
  { world with
    sessions := world.sessions.commit writeBack call fun _ => assigned
    consumed := (setting.request call).resetToken?.toList ++ world.consumed
    bumps := world.bumps + 1 }.enter call .committed

/-- `/password/forgot` sends nothing to a user that is disabled. -/
def World.mint (call : Call) (purpose : Purpose) : World Call Hash :=
  let user := world.sessions.held call
  { world with
    issued :=
      if purpose = Purpose.passwordReset ∧ user.isActive = false then world.issued
      else ⟨⟨purpose, user.tokenVersion⟩, world.bumps⟩ :: world.issued }.enter call .done

def requests : StepSystem (World Call Hash) (Action Call) where
  step world
    | .authenticate call =>
      match world.phase call, (setting.request call).bearer? with
      | .idle, some token => if world.minted token then some (world.authenticate call token) else none
      | _, _ => none
    | .collect call =>
      match world.phase call with
      | .authenticated => some { world with sessions := world.sessions.expire call }
      | _ => none
    | .handle call =>
      match world.phase call, (setting.request call).bearer?, (setting.request call).resetToken? with
      | .authenticated, some _, _ => some (world.handle setting call)
      | .idle, none, some token => if world.minted token then some (world.handle setting call) else none
      | .idle, none, none => some (world.handle setting call)
      | _, _, _ => none
    | .commit call =>
      match world.phase call with
      | .handled assigned => if (setting.request call).commits then some (world.commit setting call assigned) else none
      | _ => none
    | .refresh call =>
      match world.phase call, (setting.request call).mints? with
      | .committed, some _ => some ({ world with sessions := world.sessions.query call }.enter call .refreshed)
      | _, _ => none
    | .mint call =>
      match world.phase call, (setting.request call).mints? with
      | .handled _, some purpose => if (setting.request call).commits then none else some (world.mint call purpose)
      | .refreshed, some purpose => some (world.mint call purpose)
      | _, _ => none

variable {setting : Setting Call Hash} {world next start final : World Call Hash} {action : Action Call}
variable {call : Call}

theorem step_cases (stepped : (requests setting).step world action = some next) :
    (∃ call token, next = world.authenticate call token) ∨
    (∃ call, world.phase call = .authenticated ∧ next = { world with sessions := world.sessions.expire call }) ∨
    (∃ call, next = world.handle setting call) ∨
    (∃ call assigned, action = .commit call ∧ world.phase call = .handled assigned ∧
      (setting.request call).commits = true ∧ next = world.commit setting call assigned) ∨
    (∃ call, next = { world with sessions := world.sessions.query call }.enter call .refreshed) ∨
    ∃ call purpose, next = world.mint call purpose := by
  cases action <;> simp only [requests] at stepped
  case authenticate call =>
    split at stepped
    · split at stepped
      · exact .inl ⟨call, _, (Option.some.inj stepped).symm⟩
      · cases stepped
    · cases stepped
  case collect call =>
    split at stepped
    case h_1 phase => exact .inr (.inl ⟨call, phase, (Option.some.inj stepped).symm⟩)
    case h_2 => cases stepped
  case handle call =>
    split at stepped
    · exact .inr (.inr (.inl ⟨call, (Option.some.inj stepped).symm⟩))
    · split at stepped
      · exact .inr (.inr (.inl ⟨call, (Option.some.inj stepped).symm⟩))
      · cases stepped
    · exact .inr (.inr (.inl ⟨call, (Option.some.inj stepped).symm⟩))
    · cases stepped
  case commit call =>
    split at stepped
    case h_1 assigned phase =>
      split at stepped
      case isTrue commits =>
        exact .inr (.inr (.inr (.inl ⟨call, assigned, rfl, phase, commits, (Option.some.inj stepped).symm⟩)))
      case isFalse => cases stepped
    case h_2 => cases stepped
  case refresh call =>
    split at stepped
    · exact .inr (.inr (.inr (.inr (.inl ⟨call, (Option.some.inj stepped).symm⟩))))
    · cases stepped
  case mint call =>
    split at stepped
    · split at stepped
      · cases stepped
      · exact .inr (.inr (.inr (.inr (.inr ⟨call, _, (Option.some.inj stepped).symm⟩))))
    · exact .inr (.inr (.inr (.inr (.inr ⟨call, _, (Option.some.inj stepped).symm⟩))))
    · cases stepped

def stamp (first : Fin tokenVersions) (bumps : Nat) : Fin tokenVersions :=
  ⟨(first.val + bumps) % tokenVersions, Nat.mod_lt _ (by decide)⟩

variable {first : Fin tokenVersions}

theorem nextVersion_stamp : nextVersion (stamp first bumps) = stamp first (bumps + 1) := by
  simp only [nextVersion, stamp, Fin.mk.injEq, tokenVersions]
  omega

theorem stamp_zero : stamp first 0 = first :=
  Fin.ext (Nat.mod_eq_of_lt first.isLt)

theorem stamp_injective (order : earlier < later)
    (few : later < tokenVersions) : stamp first earlier ≠ stamp first later := by
  intro same
  have remainders := congrArg Fin.val same
  simp only [stamp, tokenVersions] at remainders few
  omega

theorem nextVersion_ne : nextVersion version ≠ version := by
  intro same
  have remainders := congrArg Fin.val same
  have bound := version.isLt
  simp only [nextVersion, tokenVersions] at remainders bound
  omega

def Seen (first : Fin tokenVersions) (bumps : Nat) (user : User Hash) : Prop :=
  ∃ earlier ≤ bumps, user.tokenVersion = stamp first earlier

def Ready (request : Request) (loaded assigned : User Hash) : Prop :=
  assigned.tokenVersion = nextVersion loaded.tokenVersion ∧
    ∀ token, request.resetToken? = some token → token.tv = loaded.tokenVersion

structure Stamped (setting : Setting Call Hash) (first : Fin tokenVersions) (world : World Call Hash) : Prop where
  row : world.sessions.row.tokenVersion = stamp first world.bumps
  seen : world.sessions.All (Seen first world.bumps)
  issued : ∀ issue ∈ world.issued, issue.bumps ≤ world.bumps ∧
    ∃ earlier ≤ issue.bumps, issue.token.tv = stamp first earlier
  handled : ∀ call assigned, world.phase call = .handled assigned → (setting.request call).commits = true →
    ∃ loaded, world.sessions.object call = some loaded ∧ Ready (setting.request call) loaded assigned
  consumed : ∃ counts : List Nat, counts.Nodup ∧ (∀ count ∈ counts, count < world.bumps) ∧
    world.consumed.map Token.tv = counts.map (stamp first)

omit [DecidableEq Call] [DecidableEq Hash] in
theorem handle_ready {passwords : Passwords Hash} {request : Request} {loaded assigned : User Hash}
    (commits : request.commits = true)
    (handled : request.handle passwords loaded = .ok assigned) : Ready request loaded assigned := by
  cases request with
  | login password | forgotPassword => cases commits
  | logout token | invalidateSessions =>
    cases handled
    exact ⟨rfl, fun _ none => by cases none⟩
  | changePassword =>
    rw [changeUserPassword_ok handled]
    exact ⟨rfl, fun _ none => by cases none⟩
  | resetPassword =>
    obtain ⟨_, same, rfl⟩ := resetPasswordWithToken_ok handled
    refine ⟨rfl, fun other found => ?_⟩
    cases found
    exact same

variable {first : Fin tokenVersions}

omit [DecidableEq Hash] in
theorem Stamped.enter {sessions : Sessions Call (User Hash)} {phase : Phase Hash}
    (stamped : Stamped setting first world) (row : sessions.row = world.sessions.row)
    (seen : sessions.All (Seen first world.bumps))
    (others : ∀ other, other ≠ call → sessions.object other = world.sessions.object other)
    (ready : ∀ assigned, phase = .handled assigned → (setting.request call).commits = true →
      ∃ loaded, sessions.object call = some loaded ∧ Ready (setting.request call) loaded assigned) :
    Stamped setting first ({ world with sessions }.enter call phase) := by
  refine ⟨row ▸ stamped.row, seen, stamped.issued, fun other assigned handled commits => ?_, stamped.consumed⟩
  simp only [World.enter] at handled ⊢
  split at handled
  case isTrue same =>
    subst same
    exact ready assigned handled commits
  case isFalse different =>
    rw [others other different]
    exact stamped.handled other assigned handled commits

omit [DecidableEq Hash] in
theorem Stamped.query {phase : Phase Hash} (stamped : Stamped setting first world)
    (ready : ∀ assigned, phase = .handled assigned → (setting.request call).commits = true →
      Ready (setting.request call) (world.sessions.held call) assigned) :
    Stamped setting first ({ world with sessions := world.sessions.query call }.enter call phase) := by
  refine stamped.enter rfl stamped.seen.query (fun other different => if_neg different) ?_
  intro assigned handled commits
  exact ⟨_, if_pos rfl, ready assigned handled commits⟩

omit [DecidableEq Hash] in
theorem Stamped.authenticate {token : Token} (stamped : Stamped setting first world) :
    Stamped setting first (world.authenticate call token) := by
  simp only [World.authenticate]
  split <;> exact stamped.query fun _ handled => by cases handled

omit [DecidableEq Hash] in
theorem Stamped.handle (stamped : Stamped setting first world) :
    Stamped setting first (world.handle setting call) := by
  simp only [World.handle, Sessions.held_query]
  split
  case h_1 outcome =>
    refine stamped.query fun other handled commits => ?_
    cases handled
    exact handle_ready commits outcome
  case h_2 => exact stamped.query fun _ handled => by cases handled

omit [DecidableEq Hash] in
theorem Stamped.collect (stamped : Stamped setting first world) (authenticated : world.phase call = .authenticated) :
    Stamped setting first { world with sessions := world.sessions.expire call } := by
  refine ⟨stamped.row, stamped.seen.expire, stamped.issued, fun other assigned handled commits => ?_, stamped.consumed⟩
  have different : other ≠ call := by
    rintro rfl
    have phases : Phase.handled assigned = .authenticated := handled.symm.trans authenticated
    cases phases
  obtain ⟨loaded, found, ready⟩ := stamped.handled other assigned handled commits
  exact ⟨loaded, (if_neg different).trans found, ready⟩

omit [DecidableEq Hash] in
theorem Stamped.mint {purpose : Purpose} (stamped : Stamped setting first world) :
    Stamped setting first (world.mint call purpose) := by
  have entered : Stamped setting first (world.enter call .done) :=
    stamped.enter rfl stamped.seen (fun _ _ => rfl) fun _ handled => by cases handled
  refine ⟨entered.row, entered.seen, fun issue member => ?_, entered.handled, entered.consumed⟩
  simp only [World.mint] at member
  split at member
  · exact stamped.issued issue member
  · rcases List.mem_cons.mp member with rfl | member
    · exact ⟨Nat.le_refl _, stamped.seen.held⟩
    · exact stamped.issued issue member

def Undisturbed (world : World Call Hash) : Action Call → Prop
  | .commit call => (world.sessions.held call).tokenVersion = world.sessions.row.tokenVersion
  | _ => True

theorem Stamped.commit (stamped : Stamped setting first world)
    (handled : world.phase call = .handled assigned) (commits : (setting.request call).commits = true)
    (undisturbed : Undisturbed world (.commit call)) :
    Stamped setting first (world.commit setting call assigned) := by
  obtain ⟨loaded, found, next, reset⟩ := stamped.handled call assigned handled commits
  obtain rfl : world.sessions.held call = loaded := by rw [Sessions.held, found, Option.getD_some]
  have current : (world.sessions.held call).tokenVersion = stamp first world.bumps := undisturbed.trans stamped.row
  have written : (writeBack (world.sessions.held call) assigned world.sessions.row).tokenVersion =
      stamp first (world.bumps + 1) := by
    have changed : assigned.tokenVersion ≠ (world.sessions.held call).tokenVersion := by
      rw [next]
      exact nextVersion_ne
    simp only [writeBack, if_neg changed]
    rw [next, current, nextVersion_stamp]
  have later {user : User Hash} (seen : Seen first world.bumps user) : Seen first (world.bumps + 1) user := by
    obtain ⟨earlier, _, version⟩ := seen
    exact ⟨earlier, by omega, version⟩
  refine ⟨written, ⟨?_, fun {other user} object => ?_⟩, fun issue member => ?_, ?_, ?_⟩
  · exact ⟨world.bumps + 1, Nat.le_refl _, written⟩
  · exact later (stamped.seen.expire.objects object)
  · obtain ⟨_, version⟩ := stamped.issued issue member
    exact ⟨by simp only [World.commit, World.enter]; omega, version⟩
  · intro other others phase otherCommits
    simp only [World.commit, World.enter] at phase ⊢
    split at phase
    · cases phase
    case isFalse different =>
      obtain ⟨user, object, ready⟩ := stamped.handled other others phase otherCommits
      exact ⟨user, (if_neg different).trans object, ready⟩
  · obtain ⟨counts, distinct, before, versions⟩ := stamped.consumed
    cases asked : (setting.request call).resetToken? with
    | none =>
      refine ⟨counts, distinct, fun count member => Nat.lt_succ_of_lt (before count member), ?_⟩
      simpa [World.commit, World.enter, asked] using versions
    | some token =>
      refine ⟨world.bumps :: counts, List.nodup_cons.mpr ⟨fun member => ?_, distinct⟩, fun count member => ?_, ?_⟩
      · exact Nat.lt_irrefl _ (before _ member)
      · rcases List.mem_cons.mp member with rfl | member
        · exact Nat.lt_succ_self _
        · exact Nat.lt_succ_of_lt (before count member)
      · simp [World.commit, World.enter, asked, versions, reset token asked, current]

theorem Stamped.step (undisturbed : Undisturbed world action) (stamped : Stamped setting first world)
    (stepped : (requests setting).step world action = some next) : Stamped setting first next := by
  rcases step_cases stepped with ⟨call, token, rfl⟩ | ⟨call, authenticated, rfl⟩ | ⟨call, rfl⟩ |
    ⟨call, assigned, rfl, handled, commits, rfl⟩ | ⟨call, rfl⟩ | ⟨call, purpose, rfl⟩
  · exact stamped.authenticate
  · exact stamped.collect authenticated
  · exact stamped.handle
  · exact stamped.commit handled commits undisturbed
  · exact stamped.query fun _ handled => by cases handled
  · exact stamped.mint

structure Fresh (world : World Call Hash) : Prop where
  unloaded : ∀ call, world.sessions.object call = none
  idle : ∀ call, world.phase call = .idle
  issued : world.issued = []
  consumed : world.consumed = []
  bumps : world.bumps = 0

omit [DecidableEq Call] [DecidableEq Hash] in
theorem Stamped.of_fresh (fresh : Fresh start) : Stamped setting start.sessions.row.tokenVersion start := by
  have row : start.sessions.row.tokenVersion = stamp start.sessions.row.tokenVersion start.bumps := by
    rw [fresh.bumps, stamp_zero]
  refine ⟨row, .of_unloaded ⟨start.bumps, Nat.le_refl _, row⟩ fresh.unloaded, fun issue member => ?_,
    fun call assigned handled => ?_, [], List.nodup_nil, fun _ member => absurd member List.not_mem_nil, ?_⟩
  · rw [fresh.issued] at member
    cases member
  · rw [fresh.idle] at handled
    cases handled
  · rw [fresh.consumed]
    rfl

/-- Where no bump is committed between a call's loading of the user and its own
commit, and fewer bumps than there are versions, a token that was minted before
a bump is not accepted behind it, and each version sets one password at most by
a reset token. -/
theorem revoked_stay_revoked (fresh : Fresh start)
    (undisturbed : (requests setting).Meets Undisturbed start actions) (few : final.bumps < tokenVersions)
    (ran : (requests setting).run start actions = some final) :
    (∀ issue ∈ final.issued, issue.bumps < final.bumps →
        ¬Accepts setting.passwords final.sessions.row issue.token) ∧
      (final.consumed.map Token.tv).Nodup := by
  have stamped : Stamped setting start.sessions.row.tokenVersion final :=
    StepSystem.invariant (fun undisturbed stamped stepped => stamped.step undisturbed stepped) undisturbed
      (.of_fresh fresh) ran
  constructor
  · intro issue member revoked accepts
    obtain ⟨_, _, _, version⟩ := stamped.issued issue member
    have same := accepts.tv
    rw [version, stamped.row] at same
    exact stamp_injective (by omega) few same
  · obtain ⟨_, distinct, before, versions⟩ := stamped.consumed
    rw [versions]
    refine distinct.map_on fun left leftMember right rightMember same => ?_
    have leftBound := before left leftMember
    have rightBound := before right rightMember
    rcases Nat.lt_trichotomy left right with less | equal | more
    · exact absurd same (stamp_injective less (by omega))
    · exact equal
    · exact absurd same.symm (stamp_injective more (by omega))

def plain : Passwords String := ⟨id, fun password hash => password = hash, false⟩

def beginning (Call : Type) : World Call String :=
  ⟨⟨⟨"password", true, true, 0⟩, fun _ => none⟩, fun _ => .idle, [], [], 0⟩

omit [DecidableEq Call] in
def inTurn : Setting (Fin 3) String :=
  ⟨plain, fun
    | 0 => .login "password"
    | 1 => .logout ⟨.access, 0⟩
    | 2 => .login "password"⟩

def inTurnActions : List (Action (Fin 3)) :=
  [.handle 0, .mint 0, .authenticate 1, .collect 1, .handle 1, .commit 1, .handle 2, .mint 2]

instance (world : World Call Hash) : ∀ action, Decidable (Undisturbed world action)
  | .commit call =>
    inferInstanceAs (Decidable ((world.sessions.held call).tokenVersion = world.sessions.row.tokenVersion))
  | .authenticate _ | .collect _ | .handle _ | .refresh _ | .mint _ => inferInstanceAs (Decidable True)

theorem revoked_stay_revoked_in_turn :
    ∃ final, (requests inTurn).run (beginning (Fin 3)) inTurnActions = some final ∧
      ⟨⟨.access, 0⟩, 0⟩ ∈ final.issued ∧ ¬Accepts plain final.sessions.row ⟨.access, 0⟩ := by
  have undisturbed : (requests inTurn).Meets Undisturbed (beginning (Fin 3)) inTurnActions := by decide
  have reached : ∃ final, (requests inTurn).run (beginning (Fin 3)) inTurnActions = some final ∧
      final.bumps = 1 ∧ ⟨⟨.access, 0⟩, 0⟩ ∈ final.issued := ⟨_, rfl, rfl, by decide⟩
  obtain ⟨final, ran, bumps, member⟩ := reached
  have few : final.bumps < tokenVersions := by
    rw [bumps]
    decide
  refine ⟨final, ran, member,
    (revoked_stay_revoked ⟨fun _ => rfl, fun _ => rfl, rfl, rfl, rfl⟩ undisturbed few ran).1 _ member ?_⟩
  rw [bumps]
  exact Nat.zero_lt_one

def overlapping : Setting Nat String :=
  ⟨plain, fun
    | 0 => .invalidateSessions
    | 1 => .invalidateSessions
    | 2 => .login "password"
    | 3 => .forgotPassword
    | 4 => .resetPassword ⟨.passwordReset, 1⟩ "password one"
    | _ => .resetPassword ⟨.passwordReset, 1⟩ "password two"⟩

def overlappingActions : List (Action Nat) :=
  [.handle 0, .handle 1, .commit 0, .handle 2, .mint 2, .commit 1]

def overlappingResets : List (Action Nat) :=
  overlappingActions ++ [.handle 3, .mint 3, .handle 4, .handle 5, .commit 4, .commit 5]

/-- Both calls write the same version: the token that was minted between their commits
outlives the second, and both calls set the password. -/
theorem revoked_token_accepted :
    (∃ final, (requests overlapping).run (beginning Nat) overlappingActions = some final ∧
      ⟨⟨.access, 1⟩, 1⟩ ∈ final.issued ∧ final.bumps = 2 ∧ Accepts plain final.sessions.row ⟨.access, 1⟩) ∧
    ∃ final, (requests overlapping).run (beginning Nat) overlappingResets = some final ∧
      final.consumed = [⟨.passwordReset, 1⟩, ⟨.passwordReset, 1⟩] :=
  ⟨⟨_, rfl, by decide, rfl, .inl ⟨_, rfl⟩⟩, _, rfl, rfl⟩

end AindyRuntime.Auth.Revocation
