import SecFusion.Foundations.Json
import SecFusion.Foundations.Text

/-!
# The vocabulary of the knowledge base

The model of `packages/intelligence/knowledge/vocabulary.py`: the canonical
predicates and relation types with the shapes they require, and how a name is
classified.  The dimension of a term and whether it is benchmarked are read by
reports only and are left out.
-/

namespace SecFusion.Knowledge

open Foundations

/-- `KnowledgeOrigin`. -/
inductive KnowledgeOrigin where
  | sourceAsserted
  | deterministicDerived
  | semanticDerived
  deriving DecidableEq

inductive VocabularyScope where
  | canonical
  | sourceSpecific
  | exploratory
  | unregistered
  deriving DecidableEq

/-- The value of the enumeration member. -/
def VocabularyScope.value : VocabularyScope → String
  | .canonical => "canonical"
  | .sourceSpecific => "source_specific"
  | .exploratory => "exploratory"
  | .unregistered => "unregistered"

inductive TermKind where
  | claim
  | relation
  deriving DecidableEq

structure VocabularyTerm where
  name : String
  kind : TermKind
  (subjectTypes targetTypes requiredQualifierKeys : List String := [])

/-- `_claim`. -/
def claimTerm (name : String) (subjectTypes : List String := ["Vulnerability"]) :
    VocabularyTerm where
  name := name
  kind := .claim
  subjectTypes := subjectTypes

/-- `_relation`. -/
def relationTerm (name : String) (subjectTypes targetTypes : List String)
    (requiredQualifierKeys : List String := []) : VocabularyTerm where
  name := name
  kind := .relation
  subjectTypes := subjectTypes
  targetTypes := targetTypes
  requiredQualifierKeys := requiredQualifierKeys

/-- The subjects of the terms of research. -/
def researchTypes : List String := ["ResearchWork", "Document"]

/-- `CANONICAL_TERMS`. -/
def canonicalTerms : List VocabularyTerm :=
  [ claimTerm "external-identifier" [],
    claimTerm "cvss_score",
    claimTerm "cvss_vector",
    claimTerm "cvss_version",
    claimTerm "cvss_severity",
    relationTerm "has-weakness" ["Vulnerability"] ["Weakness"],
    relationTerm "affects-package" ["Vulnerability"] ["Package"],
    relationTerm "affects-product" ["Vulnerability"] ["Product"],
    relationTerm "applicability-status" ["Vulnerability"] ["Product", "Package", "SoftwareVersion"]
      ["state", "source_semantics"],
    relationTerm "fixed-by" ["Vulnerability"] ["Commit"],
    relationTerm "fixed-version" ["Vulnerability"] ["SoftwareVersion"],
    relationTerm "release-contains-commit" ["Release"] ["Commit"],
    relationTerm "belongs-to-repo" ["Issue", "PullRequest", "Commit", "Release"] ["Repo"],
    relationTerm "merged-as" ["PullRequest"] ["Commit"],
    relationTerm "head-commit" ["PullRequest"] ["Commit"],
    relationTerm "has-parent-commit" ["Commit"] ["Commit"],
    relationTerm "references-development-object" ["Vulnerability"]
      ["Issue", "PullRequest", "Commit", "Release"],
    claimTerm "workaround",
    claimTerm "mitigation",
    claimTerm "known_exploited",
    claimTerm "poc_available",
    relationTerm "has-poc" ["Vulnerability"] ["ExploitArtifact"],
    claimTerm "exploit_maturity",
    claimTerm "attack_condition",
    claimTerm "epss_probability",
    claimTerm "epss_percentile",
    relationTerm "described-by" ["Vulnerability"] ["Document"],
    relationTerm "vendor-advisory" ["Vulnerability"] ["Document"],
    relationTerm "asset-runs-product" ["InternetAsset"] ["Product"],
    relationTerm "asset-version" ["InternetAsset"] ["SoftwareVersion"],
    relationTerm "asset-potentially-affected" ["InternetAsset"] ["Vulnerability"],
    relationTerm "discusses-vulnerability" researchTypes ["Vulnerability"],
    relationTerm "evaluates-attack" researchTypes [],
    relationTerm "evaluates-defense" researchTypes [],
    relationTerm "supports" researchTypes [],
    relationTerm "contradicts" researchTypes [],
    relationTerm "extends" researchTypes [],
    relationTerm "incident-exploits-vulnerability" [] ["Vulnerability"],
    relationTerm "incident-affects-object" [] [] ]

/-- `SOURCE_SPECIFIC_CLAIMS`. -/
def sourceSpecificClaims : List String :=
  ["status", "title", "description_en", "assigner", "affected_products", "references",
    "exploit_references", "published", "last_modified", "cwes"]

/-- `SOURCE_SPECIFIC_PREFIXES`. -/
def sourceSpecificHeads : List String := ["github_", "osv_", "kev_", "cnvd_", "cnnvd_"]

/-- `CANONICAL_OBJECT_TYPES`. -/
def canonicalObjectTypes : List String :=
  ["Vulnerability", "Product", "Package", "SoftwareVersion", "InternetAsset", "Repo", "Issue",
    "PullRequest", "Commit", "Release", "ResearchWork", "Document", "Weakness", "ExploitArtifact"]

def canonicalTerm (kind : TermKind) (name : String) : Option VocabularyTerm :=
  canonicalTerms.find? fun term => term.kind = kind ∧ term.name = name

/-- The shape a name is used in: the types of its ends and the keys of its
qualifier, where they are known. -/
structure TermShape where
  (subjectType targetType : Option String := none)
  qualifierKeys : Option (List String) := none

/-- The shape does not contradict the term. -/
def VocabularyTerm.fits (term : VocabularyTerm) (shape : TermShape) : Bool :=
  (term.subjectTypes = [] ∨ ∀ subject ∈ shape.subjectType, subject ∈ term.subjectTypes) ∧
    (term.targetTypes = [] ∨ ∀ target ∈ shape.targetType, target ∈ term.targetTypes) ∧
    ∀ keys ∈ shape.qualifierKeys, ∀ key ∈ term.requiredQualifierKeys, key ∈ keys

/-- What a name that no term covers is. -/
def scopeOutside (origin : KnowledgeOrigin) : VocabularyScope :=
  if origin = .semanticDerived then .exploratory else .unregistered

def classifyTerm (kind : TermKind) (name : String) (origin : KnowledgeOrigin)
    (shape : TermShape := {}) : VocabularyScope :=
  match canonicalTerm kind name with
  | some term => if term.fits shape then .canonical else scopeOutside origin
  | none =>
      if kind = .claim ∧ (name ∈ sourceSpecificClaims ∨
          ∃ head ∈ sourceSpecificHeads, (afterHead? head name).isSome) then .sourceSpecific
      else scopeOutside origin

def classifyObjectType (objectType : String) (origin : KnowledgeOrigin) : VocabularyScope :=
  if objectType ∈ canonicalObjectTypes then .canonical else scopeOutside origin

/-- `vocabulary_metadata`. -/
def vocabularyMetadata (scope : VocabularyScope) : JsonObject :=
  [("vocabulary_revision", .string "enrichment-v1"), ("vocabulary_scope", .string scope.value)]

end SecFusion.Knowledge
