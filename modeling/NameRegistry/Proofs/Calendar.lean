import NameRegistry.Account
import NameRegistry.Domain
import NameRegistry.Proofs.Time
/-!
Blocks and the calendar. No block is beyond the calendar, so ends that are cannot be told apart
(`StandsFor`), and a sum with a period may be held at the end of the range of times without any
block coming after it that does not come after the exact sum (`Context.isAfter_of_standsFor`).
A block may be asked for at a second beyond the calendar and is then at its first second, which is
the one way in which what is expired at a second is not expired at a later one
(`Context.expiry_monotone_iff`).
-/
namespace NameRegistry

namespace Context

/-- The second that the calendar begins with. -/
def firstSecond : Int := -8334601228800

/-- The second that the calendar ends with. -/
def lastSecond : Int := 8210266876799

/-- The time of a block in nanoseconds since 1970. -/
def inNanos (context : Context) : Int := context.seconds * 1000000000 + context.nanos.value

/-- Whether a block is within a leap second. Its time in nanoseconds is then one that a block in the
next second has as well, though that one comes after it. -/
def Leaps (context : Context) : Prop := 1000000000 ≤ context.nanos.value

instance (context : Context) : Decidable context.Leaps := inferInstanceAs (Decidable (_ ≤ _))

end Context

open Context

/-- Whether a time is an exact one, or both of them lie beyond the calendar. -/
def StandsFor (time : Int64) (exact : Int) : Prop :=
  time.toInt = exact ∨ lastSecond < time.toInt ∧ lastSecond < exact

theorem standsFor_now (context : Context) : StandsFor context.now context.seconds :=
  Or.inl context.toInt_now

theorem StandsFor.addSeconds {time : Int64} {exact : Int} (h : StandsFor time exact)
    (hfirst : firstSecond ≤ exact) (period : Duration) :
    StandsFor (addSeconds time period.wholeSeconds) (exact + period.seconds.toNat) := by
  have hgreatest := Int64.toInt_lt time
  rw [StandsFor] at h ⊢
  rw [toInt_addSeconds, toInt_wholeSeconds, clamped]
  simp only [firstSecond, lastSecond] at h hfirst ⊢
  omega

namespace Context

theorem isAfter_of_standsFor {time : Int64} {exact : Int} (h : StandsFor time exact)
    (context : Context) : context.isAfter time = true ↔ context.Passed exact := by
  obtain ⟨_, hlast⟩ := context.in_calendar
  rw [isAfter_iff, Passed, Passed]
  rw [StandsFor] at h
  simp only [lastSecond] at h
  omega

theorem passed_iff_inNanos {context : Context} (h : ¬ context.Leaps) (instant : Int) :
    context.Passed instant ↔ instant * 1000000000 < context.inNanos := by
  rw [Leaps] at h
  rw [Passed, inNanos]
  omega

/-- A leap second goes on with the second before it, of which it is behind the beginning. -/
theorem passed_of_leaps {context : Context} (h : context.Leaps) (instant : Int) :
    context.Passed instant ↔ instant ≤ context.seconds := by
  rw [Leaps] at h
  rw [Passed]
  omega

theorem isAfter_atSecond {second time : Int64} :
    (atSecond second).isAfter time = true ↔ time.toInt < firstSecond ∨
      second.toInt ≤ lastSecond ∧ time.toInt < second.toInt := by
  rw [isAfter_iff, Passed, atSecond]
  simp only [firstSecond, lastSecond]
  split
  · simp only [Subsecond.zero]
    omega
  · simp only [Subsecond.zero]
    omega

/-- Whether the later of two seconds is beyond the calendar and the earlier one is not, while an end
lies between the beginning of the calendar and the earlier second. -/
def Overrun (earlier later validUntil : Int64) : Prop :=
  earlier.toInt ≤ lastSecond ∧ lastSecond < later.toInt ∧
    firstSecond ≤ validUntil.toInt ∧ validUntil.toInt < earlier.toInt

instance (earlier later validUntil : Int64) : Decidable (Overrun earlier later validUntil) :=
  inferInstanceAs (Decidable (_ ∧ _))

theorem isAfter_monotone_iff {earlier later : Int64} (h : earlier ≤ later) (validUntil : Int64) :
    ((atSecond earlier).isAfter validUntil = true → (atSecond later).isAfter validUntil = true) ↔
      ¬ Overrun earlier later validUntil := by
  rw [Int64.le_iff_toInt_le] at h
  rw [isAfter_atSecond, isAfter_atSecond, Overrun]
  omega

/-- What is expired at a second is expired at every later one, unless that is beyond the calendar
while the first is not. -/
theorem expiry_monotone_iff {earlier later : Int64} (h : earlier ≤ later) :
    (∀ domain : Domain,
      (domain.isExpired (atSecond earlier) = true → domain.isExpired (atSecond later) = true) ↔
        ¬ Overrun earlier later domain.validUntil) ∧
    ∀ account : Account,
      (account.isExpired (atSecond earlier) = true → account.isExpired (atSecond later) = true) ↔
        ¬ Overrun earlier later account.validUntil :=
  ⟨fun domain => isAfter_monotone_iff h domain.validUntil,
    fun account => isAfter_monotone_iff h account.validUntil⟩

/-- What is expired a second after its end is so in the last second of the calendar. -/
theorem expiry_monotone_until_last :
    let domain : Domain := ⟨"bank", .empty, 1100, .closed, 500, none⟩
    let account : Account := .plain "bank" "teller" .empty 1100
    (1101 : Int64) ≤ 8210266876799 ∧ domain.isExpired (atSecond 8210266876799) = true ∧
      account.isExpired (atSecond 8210266876799) = true := by
  intro domain account
  have hle : (1101 : Int64) ≤ 8210266876799 := by decide
  obtain ⟨hdomain, haccount⟩ := expiry_monotone_iff hle
  exact ⟨hle, (hdomain domain).mpr (by decide) (by decide),
    (haccount account).mpr (by decide) (by decide)⟩

/-- What is expired in the last second of the calendar is not expired a second later. -/
theorem expiry_not_monotone :
    let domain : Domain := ⟨"bank", .empty, 1100, .closed, 500, none⟩
    let account : Account := .plain "bank" "teller" .empty 1100
    (8210266876799 : Int64) ≤ 8210266876800 ∧
      domain.isExpired (atSecond 8210266876799) = true ∧
      domain.isExpired (atSecond 8210266876800) = false ∧
      account.isExpired (atSecond 8210266876799) = true ∧
      account.isExpired (atSecond 8210266876800) = false := by
  decide

end Context

end NameRegistry
