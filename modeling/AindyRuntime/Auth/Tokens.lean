import Mathlib.Algebra.Ring.Nat

/-! # Users, tokens and their versions

`services/auth_service.py` and `routes/auth_router.py`, for the tokens of one
user.
-/

namespace AindyRuntime.Auth

/-- `bump_token_version` wraps here. -/
def tokenVersions : Nat := 32767

instance : NeZero tokenVersions := ⟨by decide⟩

structure User (Hash : Type) where
  hashedPassword : Hash
  (isActive isVerified : Bool)
  tokenVersion : Fin tokenVersions
deriving DecidableEq, Repr

inductive Purpose where
  | access
  | passwordReset
deriving DecidableEq, Repr

structure Token where
  purpose : Purpose
  tv : Fin tokenVersions
deriving DecidableEq, Repr

structure HTTPException where
  statusCode : Nat
  detail : String
deriving DecidableEq, Repr

structure Passwords (Hash : Type) where
  hashPassword : String → Hash
  verifyPassword : String → Hash → Bool
  /-- `AINDY_REQUIRE_VERIFIED_LOGIN` -/
  requireVerifiedLogin : Bool

def minPasswordLength : Nat := 8

def nextVersion (version : Fin tokenVersions) : Fin tokenVersions :=
  ⟨(version.val + 1) % tokenVersions, Nat.mod_lt _ (by decide)⟩

variable {Hash : Type}

def User.bumpTokenVersion (user : User Hash) : User Hash :=
  { user with tokenVersion := nextVersion user.tokenVersion }

variable (passwords : Passwords Hash)

def User.setPassword (user : User Hash) (newPassword : String) : User Hash :=
  { user with hashedPassword := passwords.hashPassword newPassword }.bumpTokenVersion

def invalidToken : HTTPException := ⟨401, "Invalid or expired token"⟩

def invalidResetToken : HTTPException := ⟨400, "Invalid or expired reset token"⟩

def disabled : HTTPException := ⟨403, "Account is disabled"⟩

variable (token : Token)

def decodeAccessToken : Except HTTPException Token :=
  if token.purpose = .access then .ok token else .error invalidToken

def resolveAuthenticatedJwtUser (payload : Token) : Option (User Hash) → Except HTTPException (User Hash)
  | none => .error invalidToken
  | some user =>
    if payload.tv ≠ user.tokenVersion then .error ⟨401, "Token has been invalidated. Please log in again."⟩
    else if !user.isActive then .error invalidToken
    else .ok user

def getCurrentUser (user : Option (User Hash)) : Except HTTPException (User Hash) := do
  let payload ← decodeAccessToken token
  resolveAuthenticatedJwtUser payload user

def authenticateUser (password : String) : Option (User Hash) → Except HTTPException (User Hash)
  | none => .error ⟨401, "Invalid email or password"⟩
  | some user =>
    if !passwords.verifyPassword password user.hashedPassword then .error ⟨401, "Invalid email or password"⟩
    else if !user.isActive then .error disabled
    else if passwords.requireVerifiedLogin && !user.isVerified then
      .error ⟨403, "Email address not verified. Check your inbox for the verification link."⟩
    else .ok user

def changeUserPassword (currentPassword newPassword : String) :
    Option (User Hash) → Except HTTPException (User Hash)
  | none => .error ⟨404, "User not found"⟩
  | some user =>
    if !user.isActive then .error disabled
    else if !passwords.verifyPassword currentPassword user.hashedPassword then
      .error ⟨401, "Current password is incorrect"⟩
    else if newPassword.length < minPasswordLength then
      .error ⟨400, s!"New password must be at least {minPasswordLength} characters"⟩
    else if passwords.verifyPassword newPassword user.hashedPassword then
      .error ⟨400, "New password must differ from the current password"⟩
    else .ok (user.setPassword passwords newPassword)

def verifyPasswordResetToken : Except HTTPException Token :=
  if token.purpose = .passwordReset then .ok token else .error invalidResetToken

def resetPasswordWithToken (newPassword : String)
    (user : Option (User Hash)) : Except HTTPException (User Hash) := do
  let claims ← verifyPasswordResetToken token
  if newPassword.length < minPasswordLength then
    .error ⟨400, s!"Password must be at least {minPasswordLength} characters"⟩
  else
    match user with
    | none => .error invalidResetToken
    | some user =>
      if !user.isActive then .error disabled
      else if claims.tv ≠ user.tokenVersion then .error invalidResetToken
      else .ok (user.setPassword passwords newPassword)

def Accepts (user : User Hash) (token : Token) : Prop :=
  (∃ current, getCurrentUser token (some user) = .ok current) ∨
    ∃ newPassword assigned, resetPasswordWithToken passwords token newPassword (some user) = .ok assigned

variable {passwords : Passwords Hash} {user : User Hash} {token : Token}

theorem getCurrentUser_ok (accepted : getCurrentUser token (some user) = .ok assigned) :
    token.tv = user.tokenVersion := by
  simp only [getCurrentUser, decodeAccessToken] at accepted
  split at accepted
  case isFalse => cases accepted
  case isTrue =>
    simp only [bind, Except.bind, resolveAuthenticatedJwtUser] at accepted
    split at accepted
    · cases accepted
    case isFalse same => exact not_not.mp same

theorem resetPasswordWithToken_ok
    (accepted : resetPasswordWithToken passwords token newPassword (some user) = .ok assigned) :
    token.purpose = .passwordReset ∧ token.tv = user.tokenVersion ∧
      assigned = user.setPassword passwords newPassword := by
  simp only [resetPasswordWithToken, verifyPasswordResetToken] at accepted
  split at accepted
  case isFalse => cases accepted
  case isTrue reset =>
    simp only [bind, Except.bind] at accepted
    split at accepted
    · cases accepted
    split at accepted
    · cases accepted
    split at accepted <;> cases accepted
    case isFalse same => exact ⟨reset, not_not.mp same, rfl⟩

theorem changeUserPassword_ok
    (accepted : changeUserPassword passwords currentPassword newPassword (some user) = .ok assigned) :
    assigned = user.setPassword passwords newPassword := by
  simp only [changeUserPassword] at accepted
  split at accepted
  · cases accepted
  split at accepted
  · cases accepted
  split at accepted
  · cases accepted
  split at accepted <;> cases accepted
  · rfl

theorem Accepts.tv (accepts : Accepts passwords user token) : token.tv = user.tokenVersion := by
  rcases accepts with ⟨_, accepted⟩ | ⟨_, _, accepted⟩
  · exact getCurrentUser_ok accepted
  · exact (resetPasswordWithToken_ok accepted).2.1

end AindyRuntime.Auth
