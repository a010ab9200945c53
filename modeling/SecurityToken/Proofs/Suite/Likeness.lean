import SecurityToken.Proofs.Suite.Cache

/-!
# States that answer alike

Two states of a suite are alike if the suite gives the same answers in both, and goes on to do so.
Every state is like itself. Under the caching suite any two memories are alike that keep nothing
false, whatever each of them keeps. What is shown of runs from states that are alike holds of one
handler that is used twice, and of two handlers that have their memories apart.
-/

namespace SecurityToken

variable {σ ρ : Type}

/-- Whether in states that are alike a suite gives the same answers for certain keys, and goes to
states that are alike again. -/
structure CryptoSuite.Respects (suite : CryptoSuite σ) (alike : σ → σ → Prop)
    (known : Key → Prop) : Prop where
  trans : ∀ {first second third}, alike first second → alike second third → alike first third
  signature : ∀ {left right} {key : Key} (name : String) (forSigning : Bool), known key →
    alike left right →
    ((suite.signature key name forSigning).run left).1 =
        ((suite.signature key name forSigning).run right).1 ∧
      alike ((suite.signature key name forSigning).run left).2
        ((suite.signature key name forSigning).run right).2
  keyManagement : ∀ {left right} {key : Key} (name : String), known key → alike left right →
    ((suite.keyManagement key name).run left).1 = ((suite.keyManagement key name).run right).1 ∧
      alike ((suite.keyManagement key name).run left).2 ((suite.keyManagement key name).run right).2
  content : ∀ {left right} (name : String), alike left right →
    ((suite.content name).run left).1 = ((suite.content name).run right).1 ∧
      alike ((suite.content name).run left).2 ((suite.content name).run right).2

/-- Sessions whose suites are in states that are alike, with records that are related. -/
structure Session.Likened (alike : σ → σ → Prop) (record : ρ → ρ → Prop)
    (left right : Session σ ρ) : Prop where
  suite : alike left.suite right.suite
  replay : record left.replay right.replay

theorem CryptoSuite.respects_eq (suite : CryptoSuite σ) : suite.Respects Eq fun _ => True where
  trans := Eq.trans
  signature _ _ _ hsame := by
    subst hsame
    exact ⟨rfl, rfl⟩
  keyManagement _ _ hsame := by
    subst hsame
    exact ⟨rfl, rfl⟩
  content _ hsame := by
    subst hsame
    exact ⟨rfl, rfl⟩

/-- Two memories that keep nothing false. -/
def SchemeCache.BothFaithful (ring : KeyRing) (left right : SchemeCache) : Prop :=
  left.Faithful ring ∧ right.Faithful ring

theorem CryptoSuite.caching_respects (ring : KeyRing) (isLive : KeyHandle → Bool) :
    (caching isLive).Respects (SchemeCache.BothFaithful ring) ring.Has where
  trans hfirst hsecond := ⟨hfirst.1, hsecond.2⟩
  signature name forSigning hkey hboth := by
    obtain ⟨hleft, hleft'⟩ := hboth.1.signature isLive hkey name forSigning
    obtain ⟨hright, hright'⟩ := hboth.2.signature isLive hkey name forSigning
    exact ⟨hleft.trans hright.symm, hleft', hright'⟩
  keyManagement name hkey hboth := by
    obtain ⟨hleft, hleft'⟩ := hboth.1.keyManagement isLive hkey name
    obtain ⟨hright, hright'⟩ := hboth.2.keyManagement isLive hkey name
    exact ⟨hleft.trans hright.symm, hleft', hright'⟩
  content name hboth := by
    obtain ⟨hleft, hleft'⟩ := hboth.1.content name
    obtain ⟨hright, hright'⟩ := hboth.2.content name
    exact ⟨hleft.trans hright.symm, hleft', hright'⟩

theorem CryptoSuite.Respects.agree {suite : CryptoSuite σ} {alike : σ → σ → Prop}
    {known : Key → Prop} (hsuite : suite.Respects alike known) (record : ρ → ρ → Prop) :
    CryptoSuite.Agree (Session.Likened alike record) suite suite known where
  note _ hsame := ⟨hsame.suite, hsame.replay⟩
  signature name forSigning hkey _ _ hsame := by
    obtain ⟨hanswer, hafter⟩ := hsuite.signature name forSigning hkey hsame.suite
    exact ⟨hanswer, hafter, hsame.replay⟩
  keyManagement name hkey _ _ hsame := by
    obtain ⟨hanswer, hafter⟩ := hsuite.keyManagement name hkey hsame.suite
    exact ⟨hanswer, hafter, hsame.replay⟩
  content name _ _ hsame := by
    obtain ⟨hanswer, hafter⟩ := hsuite.content name hsame.suite
    exact ⟨hanswer, hafter, hsame.replay⟩

namespace Session.Likened

variable {alike : σ → σ → Prop} {known : Key → Prop} {suite : CryptoSuite σ}
  {first second third : Session σ ρ}

theorem trans (hsuite : suite.Respects alike known) (hfirst : Session.Likened alike Eq first second)
    (hsecond : Session.Likened alike Eq second third) : Session.Likened alike Eq first third :=
  ⟨hsuite.trans hfirst.suite hsecond.suite, hfirst.replay.trans hsecond.replay⟩

theorem notingRight {record : ρ → ρ → Prop} (hsame : Session.Likened alike record first second)
    (call : Call) : Session.Likened alike record first (second.noting call) :=
  ⟨hsame.suite, hsame.replay⟩

end Session.Likened

end SecurityToken
