import Mathlib.Data.Set.Function
import SbbTicketing.PlainRnp

/-! Who an id stands for: the ids of two passengers differ, although email and password are
hashed without a separator, and one pair of credentials is given the company's id. -/

namespace SbbTicketing

open Qt

structure Credentials where
  typedEmail : QString
  password : QString
  accepted : LoginPage.inputError (trimmed typedEmail) password = none

namespace Credentials

def email (credentials : Credentials) : QString := trimmed credentials.typedEmail

def userId (lib : QtLibrary) (credentials : Credentials) : QString :=
  deterministicId lib credentials.email credentials.password

end Credentials

def companyUserId (lib : QtLibrary) : QString :=
  deterministicId lib CompanyInfo.companyEmail CompanyInfo.companySeed

def shortHash (lib : QtLibrary) (string : QString) : QString :=
  left (toHex (lib.sha256 (toUtf8 string))) 16

theorem shortHash_length (lib : QtLibrary) (string : QString) : (shortHash lib string).length = 16 := by
  rw [shortHash, left, List.length_take, toHex, HexText.encode_length, lib.sha256_length]
  rfl

/-- An id ends in 17 characters that are not the email's, so it gives the email away. -/
theorem deterministicId_eq_iff (lib : QtLibrary) (email secret email' secret' : QString) :
    deterministicId lib email secret = deterministicId lib email' secret' ↔
      email = email' ∧ shortHash lib (email ++ secret) = shortHash lib (email' ++ secret') := by
  constructor
  · intro same
    have sameLength := (shortHash_length lib (email ++ secret)).trans
      (shortHash_length lib (email' ++ secret')).symm
    obtain ⟨front, hash⟩ := List.append_inj' same sameLength
    exact ⟨List.append_cancel_right front, hash⟩
  · rintro ⟨rfl, hash⟩
    exact congrArg (email ++ text "_" ++ ·) hash

theorem deterministicId_eq_iff_of_injOn {lib : QtLibrary} {hashed : Set QString}
    (injective : Set.InjOn (shortHash lib) hashed) {email secret email' secret' : QString}
    (member : email ++ secret ∈ hashed) (member' : email' ++ secret' ∈ hashed) :
    deterministicId lib email secret = deterministicId lib email' secret' ↔
      email = email' ∧ secret = secret' := by
  rw [deterministicId_eq_iff]
  constructor
  · rintro ⟨rfl, hash⟩
    exact ⟨rfl, List.append_cancel_left (injective member member' hash)⟩
  · rintro ⟨rfl, rfl⟩
    exact ⟨rfl, rfl⟩

theorem identities_differ (lib : QtLibrary) (hashed : Set QString)
    (injective : Set.InjOn (shortHash lib) hashed)
    (company : CompanyInfo.companyEmail ++ CompanyInfo.companySeed ∈ hashed) :
    (∀ first second : Credentials, first.email ++ first.password ∈ hashed →
      second.email ++ second.password ∈ hashed →
      (first.email ≠ second.email ∨ first.password ≠ second.password) →
      first.userId lib ≠ second.userId lib) ∧
    ∀ credentials : Credentials, credentials.email ++ credentials.password ∈ hashed →
      (credentials.userId lib = companyUserId lib ↔
        credentials.email = CompanyInfo.companyEmail ∧ credentials.password = CompanyInfo.companySeed) := by
  refine ⟨?_, ?_⟩
  · intro first second firstHashed secondHashed different same
    obtain ⟨email, password⟩ :=
      (deterministicId_eq_iff_of_injOn injective firstHashed secondHashed).mp same
    rcases different with otherEmail | otherPassword
    · exact otherEmail email
    · exact otherPassword password
  · intro credentials credentialsHashed
    exact deterministicId_eq_iff_of_injOn injective credentialsHashed company

def passenger : Credentials where
  typedEmail := text " a@b.ch"
  password := text "pw"
  accepted := by decide

theorem identities_differ_passenger :
    passenger.userId PlainRnp.library ≠ companyUserId PlainRnp.library := by
  have injective : Set.InjOn (shortHash PlainRnp.library)
      {CompanyInfo.companyEmail ++ CompanyInfo.companySeed, text "a@b.chpw"} := by
    have different : shortHash PlainRnp.library (CompanyInfo.companyEmail ++ CompanyInfo.companySeed) ≠
        shortHash PlainRnp.library (text "a@b.chpw") := by decide +kernel
    rintro first (rfl | rfl) second (rfl | rfl) same
    · rfl
    · exact absurd same different
    · exact absurd same.symm different
    · rfl
  have company := (identities_differ PlainRnp.library _ injective (Or.inl rfl)).2 passenger
    (Or.inr (by decide))
  rw [ne_eq, company]
  decide

/-- The company's email and seed pass the form like any credentials and get the company's id,
with nothing hashed but that one string. -/
theorem company_credentials_accepted :
    Set.InjOn (shortHash PlainRnp.library) {CompanyInfo.companyEmail ++ CompanyInfo.companySeed} ∧
      LoginPage.inputError (trimmed CompanyInfo.companyEmail) CompanyInfo.companySeed = none ∧
      deterministicId PlainRnp.library (trimmed CompanyInfo.companyEmail) CompanyInfo.companySeed =
        companyUserId PlainRnp.library := by
  refine ⟨Set.injOn_singleton _ _, by decide +kernel, ?_⟩
  have solid : trimmed CompanyInfo.companyEmail = CompanyInfo.companyEmail := by decide +kernel
  rw [solid]
  rfl

end SbbTicketing
