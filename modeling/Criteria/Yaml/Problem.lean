/-!
# Problems of YAML texts
-/

namespace Criteria.Yaml

/-- Why a text yields no data. -/
inductive Problem where
  /-- It holds a character that no text may hold. -/
  | forbiddenCharacter
  /-- Its characters do not form tokens. -/
  | noToken
  /-- Its tokens do not form a document. -/
  | noDocument
  /-- More than one document stands in it. -/
  | severalDocuments
  /-- A document has a tag or a key for which there is no data. -/
  | noData
  /-- A scalar has the form of a datum that does not exist, such as the thirtieth
  of February. -/
  | noSuchDatum
  deriving DecidableEq, Inhabited

end Criteria.Yaml
