/-
The evidence of a decision, read back.

The digest of the evidence of a decision is taken of the redacted evidence, which is what is
stored, and the verification redacts what is stored again.  The two digests agree where redacting
the evidence twice is redacting it once: where no text of the evidence has a slash that redaction
leaves in front of a path that it replaces.

Main definitions:

* `Services.exposesPathIn` — some text of a document has an exposed path.

Main results:

* `Services.sanitizeDetails_twice` — redacting a document twice;
* `Services.verifyAutomationDecision_buildDecision` — **when a decision that was just built
  verifies**.
-/

import LibSeek.Core.Redaction
import LibSeek.Services.Decisions

set_option relaxedAutoImplicit false
set_option autoImplicit false

namespace LibSeek.Services

open LibSeek.Core LibSeek.Lib LibSeek.Models LibSeek.Schemas

section

variable [Python]

/-- Some text of a document has an exposed path, in a member whose key is not sensitive. -/
def exposesPathIn (x : Json) : Bool :=
  !x.everyText (fun key => if isSensitiveKey key then some (.str "[REDACTED]") else none)
    fun value => !exposesPath value

variable [LawfulSpace]

/-- Redaction settles a text exactly where it exposes no path. -/
theorem settled_iff (value : String) :
    sanitizePublicText (sanitizePublicText value) = sanitizePublicText value ↔
      (!exposesPath value) = true := by
  rw [sanitizePublicText_twice, Bool.not_eq_true']

/-- **Redacting a document twice** is redacting it once exactly where it exposes no path. -/
theorem sanitizeDetails_twice (x : Json) :
    sanitizeDetails (sanitizeDetails x) = sanitizeDetails x ↔ exposesPathIn x = false := by
  rw [exposesPathIn, Bool.not_eq_false']
  exact Json.mapText_twice settled_iff x

/-- The digests of the two forms do not hide a difference. -/
theorem canonicalHash_sanitizeDetails_twice (x : Json) :
    canonicalHash (sanitizeDetails (sanitizeDetails x)) = canonicalHash (sanitizeDetails x) ↔
      exposesPathIn x = false := by
  have hreplaced : ∀ key r,
      (if isSensitiveKey key then some (Json.str "[REDACTED]") else none) = some r →
        r.canonical = r := by
    intro key r hr
    split at hr
    · obtain rfl := Option.some.inj hr
      rfl
    · cases hr
  rw [exposesPathIn, Bool.not_eq_false']
  exact Digest.sha256_inj.trans (Json.canonical_mapText_twice settled_iff hreplaced x)

/-- The row of a decision verifies exactly where redaction settles its evidence. -/
theorem verifyAutomationDecision_decisionRow (revision : AutomationPolicyRevision)
    (arguments : DecisionArguments) (newId : Uuid) :
    verifyAutomationDecision (decisionRow revision arguments newId) = .ok () ↔
      exposesPathIn (.object arguments.evidence) = false := by
  rw [verifyAutomationDecision_iff, ← canonicalHash_sanitizeDetails_twice]
  constructor
  · rintro ⟨hevidence, -⟩
    exact hevidence.symm
  · intro hevidence
    exact ⟨hevidence.symm, rfl⟩

/-- **When a decision that was built verifies**, stored and read back: where redaction settles its
evidence, which is where no text of it exposes a path. -/
theorem verifyAutomationDecision_buildDecision :
    (∀ x : Json, sanitizeDetails (sanitizeDetails x) = sanitizeDetails x ↔
      exposesPathIn x = false) ∧
    ∀ (revision : AutomationPolicyRevision) (arguments : DecisionArguments) (newId : Uuid)
      (d : AutomationDecision), buildDecision revision arguments newId = .ok d →
      ∀ decisions : Table AutomationDecision, ∃ row, (decisions.save d).get? d.id = some row ∧
        (verifyAutomationDecision row = .ok () ↔
          exposesPathIn (.object arguments.evidence) = false) := by
  refine ⟨sanitizeDetails_twice, fun revision arguments newId d hd decisions => ?_⟩
  obtain ⟨-, rfl⟩ := buildDecision_eq_ok.mp hd
  exact ⟨_, Table.get?_save_self _ _,
    verifyAutomationDecision_decisionRow revision arguments newId⟩

end

/-! ### On ASCII -/

/-- White space on ASCII is as assumed. -/
theorem lawfulSpace_ascii : @LawfulSpace asciiPython := by
  let _ := asciiPython
  have hletter : ∀ c : Char, c.isAlpha = true → latinIsspace c = false := by
    intro c hc
    simp only [Char.isAlpha, Char.isUpper, Char.isLower, Bool.or_eq_true, Bool.and_eq_true,
      decide_eq_true_eq, ge_iff_le, UInt32.le_iff_toNat_le] at hc
    have hval : c.toNat = c.val.toNat := rfl
    have hbounds : 'A'.val.toNat = 65 ∧ 'z'.val.toNat = 122 ∧ 'Z'.val.toNat = 90 ∧
        'a'.val.toNat = 97 := by decide
    simp only [latinIsspace, Bool.or_eq_false_iff, Bool.and_eq_false_iff, decide_eq_false_iff_not,
      beq_eq_false_iff_ne]
    omega
  constructor
  · intro c hc
    simp only [isStart, isLatin, Bool.or_eq_true, beq_iff_eq] at hc
    rcases hc with ((((((hc | rfl) | rfl) | rfl) | rfl) | rfl) | rfl)
    · exact hletter c hc
    all_goals decide
  · decide
  · decide

/-- A decision on a path. -/
def pathArguments (path : String) : DecisionArguments where
  stage := .execution
  action := "CREATE_DOWNLOAD_EXECUTION"
  outcome := .blocked
  mediaItemId := cleanSnapshot.mediaItemId
  reasonCodes := ["PATH_CHECKED"]
  evidence := .ofList [("path", .str path)]

theorem buildDecision_path (path : String) :
    @buildDecision asciiPython bootstrappedPolicy (pathArguments path) (rowId 3) =
      .ok (@decisionRow asciiPython bootstrappedPolicy (pathArguments path) (rowId 3)) := by
  let _ := asciiPython
  have hcodes : (["PATH_CHECKED"].eraseDups ≠ [] ∧
      ["PATH_CHECKED"].eraseDups.all isReasonCode = true) := by decide +kernel
  exact buildDecision_eq_ok.mpr ⟨hcodes, rfl⟩

/-- Of a path behind one slash, the decision verifies: no path is exposed. -/
theorem verifyAutomationDecision_buildDecision_path :
    ∃ row, ((∅ : Table AutomationDecision).save
        (@decisionRow asciiPython bootstrappedPolicy (pathArguments "/foo") (rowId 3))).get?
          (@decisionRow asciiPython bootstrappedPolicy (pathArguments "/foo") (rowId 3)).id =
            some row ∧
      (@verifyAutomationDecision asciiPython row = .ok () ↔
        @exposesPathIn asciiPython (.object (pathArguments "/foo").evidence) = false) ∧
      @exposesPathIn asciiPython (.object (pathArguments "/foo").evidence) = false := by
  let _ := asciiPython
  have hlawful : LawfulSpace := lawfulSpace_ascii
  obtain ⟨row, hrow, hiff⟩ := verifyAutomationDecision_buildDecision.2 bootstrappedPolicy
    (pathArguments "/foo") (rowId 3) _ (buildDecision_path "/foo") ∅
  exact ⟨row, hrow, hiff, by decide +kernel⟩

/-- **The decision on a path behind two slashes does not verify** when it is read back: what was
stored is redacted once more. -/
theorem verifyAutomationDecision_doubledSlash :
    ∃ d, @buildDecision asciiPython bootstrappedPolicy (pathArguments "//foo") (rowId 3) = .ok d ∧
      ((∅ : Table AutomationDecision).save d).get? d.id = some d ∧
      @verifyAutomationDecision asciiPython d ≠ .ok () ∧
      @sanitizeDetails asciiPython (@sanitizeDetails asciiPython (.str "//foo")) ≠
        @sanitizeDetails asciiPython (.str "//foo") := by
  let _ := asciiPython
  exact ⟨_, buildDecision_path "//foo", Table.get?_save_self _ _, by decide +kernel,
    by decide +kernel⟩

end LibSeek.Services
