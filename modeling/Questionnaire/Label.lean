/-!
# Filing labels

A filing label is a category of the court filing that a node collects facts for. Every label except
`other` is filing-critical: when no node feeds it, the filing has a gap.
-/

namespace Questionnaire

/-- A category of the filing that a node collects facts for. -/
inductive Label where
  /-- Debtor, spouse, dependents, residence. -/
  | identityHousehold
  /-- Recurring income. -/
  | income
  /-- Household expenses. -/
  | expenses
  /-- Real and personal property. -/
  | assets
  /-- Debts tied to collateral. -/
  | debtsSecured
  /-- Debts without collateral. -/
  | debtsUnsecured
  /-- Schedule A/B. -/
  | scheduleAB
  /-- Schedule C. -/
  | scheduleC
  /-- Schedule D. -/
  | scheduleD
  /-- Schedule E/F. -/
  | scheduleEF
  /-- Schedule I/J. -/
  | scheduleIJ
  /-- Statement of Financial Affairs. -/
  | sofa
  /-- Exemption strategy. -/
  | exemptions
  /-- Garnishments, foreclosures, suits. -/
  | legalActions
  /-- Uploaded evidence. -/
  | documents
  /-- Anything outside the standard schedules. -/
  | other
deriving DecidableEq, Repr

namespace Label

/-- Every label, in the order in which coverage is reported. -/
def all : List Label :=
  [identityHousehold, income, expenses, assets, debtsSecured, debtsUnsecured, scheduleAB, scheduleC,
    scheduleD, scheduleEF, scheduleIJ, sofa, exemptions, legalActions, documents, other]

/-- The name of the label in documents. -/
def name : Label → String
  | identityHousehold => "identity_household"
  | income => "income"
  | expenses => "expenses"
  | assets => "assets"
  | debtsSecured => "debts_secured"
  | debtsUnsecured => "debts_unsecured"
  | scheduleAB => "schedule_a_b"
  | scheduleC => "schedule_c"
  | scheduleD => "schedule_d"
  | scheduleEF => "schedule_e_f"
  | scheduleIJ => "schedule_i_j"
  | sofa => "sofa"
  | exemptions => "exemptions"
  | legalActions => "legal_actions"
  | documents => "documents"
  | other => "other"

/-- The name of the label for people. -/
def displayName : Label → String
  | identityHousehold => "Identity / Household"
  | income => "Income"
  | expenses => "Expenses"
  | assets => "Assets"
  | debtsSecured => "Secured Debts"
  | debtsUnsecured => "Unsecured Debts"
  | scheduleAB => "Schedule A/B"
  | scheduleC => "Schedule C"
  | scheduleD => "Schedule D"
  | scheduleEF => "Schedule E/F"
  | scheduleIJ => "Schedule I/J"
  | sofa => "SOFA"
  | exemptions => "Exemptions"
  | legalActions => "Legal Actions"
  | documents => "Documents"
  | other => "Other"

/-- One line that says what belongs under the label. -/
def description : Label → String
  | identityHousehold => "Debtor, spouse, dependents, and residence facts."
  | income => "Wages, self-employment, and recurring income sources."
  | expenses => "Monthly household expenses and budget drivers."
  | assets => "Real estate, vehicles, accounts, and personal property."
  | debtsSecured => "Mortgages, car loans, and liens tied to collateral."
  | debtsUnsecured => "Credit cards, medical debt, and unsecured obligations."
  | scheduleAB => "Property schedules for real and personal assets."
  | scheduleC => "Exemption elections and claimed protected property."
  | scheduleD => "Secured creditors and collateral details."
  | scheduleEF => "Priority and unsecured creditor reporting."
  | scheduleIJ => "Income and expense schedules."
  | sofa => "Statement of Financial Affairs questions."
  | exemptions => "Exemption strategy and supporting facts."
  | legalActions => "Urgent legal events, garnishments, foreclosures, suits."
  | documents => "Upload requests and sufficiency of documentary evidence."
  | other => "Additional context outside standard filing schedules."

/-- Whether a label that no node feeds is a gap in the filing. -/
def isCritical (label : Label) : Bool :=
  label != other

/-- The filing-critical labels, in order. -/
def critical : List Label :=
  all.filter isCritical

end Label

end Questionnaire
