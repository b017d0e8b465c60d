import ObjectStore.Value.Shown

/-! # Rejected arguments

Everything that a check of this library can object to, one constructor for each objection, and the
wording of each in `Invalid.message`. -/

namespace ObjectStore

/-- An objection to an argument or to a configuration. -/
inductive Invalid
  -- names, tenants and limits
  | collectionNotText (kind : String)
  | collectionEmpty
  | collectionTooLong (length : Nat) (limit : Nat)
  | collectionMalformed (name : String)
  | propertyNotText (kind : String)
  | propertyBlank
  | badTenant
  | limitNotWhole (kind : String)
  | limitTooSmall (got : Int)
  | limitTooLarge (got : Int) (limit : Value)
  -- literals
  | literalNull (place : String)
  | literalKind (place : String) (kind : String)
  | literalNotFinite (place : String) (got : Double)
  -- filters
  | unknownOperator (got : Value)
  | nullOperator
  | patternNotText (kind : String)
  | nullFlagNotBool
  | unknownConnective (got : Value)
  | operandsNotSequence (builder : String)
  | noOperands (builder : String)
  | operandNotFilter (builder : String) (kind : String)
  | candidatesNotList
  | noCandidates
  | candidatesMixed (tags : List String)
  | badObjectId
  | criteriaNotMapping (kind : String)
  -- queries
  | notFilter (kind : String)
  | selectionNotList
  | badSelection (got : Value)
  | nothingSelected (collection : String)
  | noConnection
  | notEncodable (kind : String)
  -- objects and vectors
  | propertiesNotMapping (kind : String)
  | vectorNotNumeric (reason : String)
  | vectorNotFlat (shape : List Nat)
  | vectorEmpty
  | vectorNotFinite
  | vectorTooShort
  -- settings
  | retriesNotWhole
  | retriesNegative (got : Int)
  | baseDelayNegative (got : Number)
  | maxDelayNegative (got : Number)
  | urlEmpty
  | timeoutNotPositive (got : Number)
  | badEmptySelection (got : Value)
  | badLogLevel (got : Value) (levels : List String)
  | badConfiguration (reason : String)
  | configurationNotMapping (path : String)
deriving Repr

namespace Invalid

/-- The wording of an objection. -/
def message : Invalid → String
  | collectionNotText kind => "Collection name must be a string, got " ++ kind
  | collectionEmpty => "Collection name cannot be empty"
  | collectionTooLong n limit =>
    "Collection name too long: " ++ toString n ++ " characters (max " ++ toString limit ++ ")"
  | collectionMalformed name =>
    "Invalid collection name '" ++ name ++
      "': must start with a letter or underscore and contain only letters, digits or underscores"
  | propertyNotText kind => "Property name must be a string, got " ++ kind
  | propertyBlank => "Property name cannot be empty"
  | badTenant => "Tenant must be a non-empty string"
  | limitNotWhole kind => "Limit must be an integer, got " ++ kind
  | limitTooSmall n => "Limit must be at least 1, got " ++ toString n
  | limitTooLarge n limit =>
    "Limit too large: " ++ toString n ++ " (max " ++ limit.written ++ ")"
  | literalNull place => place ++ " cannot be None; use is_null() to match missing values"
  | literalKind place kind =>
    "Invalid " ++ place ++ " type: " ++ kind ++ ". Allowed types: str, int, float, bool, datetime"
  | literalNotFinite place x => place ++ " must be finite, got " ++ x.text
  | unknownOperator v => "Unknown filter operator: " ++ v.shown
  | nullOperator => "Use NullCheck (or is_null()) for null checks"
  | patternNotText kind => "like() pattern must be a string, got " ++ kind
  | nullFlagNotBool => "is_null() expects a boolean"
  | unknownConnective v => "Unknown conjunction: " ++ v.shown
  | operandsNotSequence builder => builder ++ "() expects a sequence of filters"
  | noOperands builder => builder ++ "() requires at least one filter"
  | operandNotFilter builder kind => builder ++ "() operands must be filters, got " ++ kind
  | candidatesNotList => "contains_any() expects a list of values"
  | noCandidates => "contains_any() requires at least one value"
  | candidatesMixed tags =>
    "contains_any() values must share one type, got [" ++
      ", ".intercalate (tags.map Text.quoted) ++ "]"
  | badObjectId => "Object id must be a non-empty string"
  | criteriaNotMapping kind => "Criteria must be a mapping, got " ++ kind
  | notFilter kind => "where() expects a Filter, got " ++ kind
  | selectionNotList => "return_properties() expects a list of names"
  | badSelection v => "Invalid property selection: " ++ v.shown
  | nothingSelected collection =>
    "No properties selected for '" ++ collection ++ "' and no default fields set"
  | noConnection => "fetch_objects() requires a connection"
  | notEncodable kind => "Cannot encode " ++ kind ++ " as a GraphQL literal"
  | propertiesNotMapping kind => "Properties must be a dictionary, got " ++ kind
  | vectorNotNumeric reason => "Vector must contain only numbers: " ++ reason
  | vectorNotFlat shape =>
    "Vector must be 1-dimensional, got shape " ++ Operand.shownTuple (shape.map toString)
  | vectorEmpty => "Vector cannot be empty"
  | vectorNotFinite => "Vector contains NaN or infinite values"
  | vectorTooShort => "Cannot normalize a zero-length vector"
  | retriesNotWhole => "max_retries must be an integer"
  | retriesNegative n => "max_retries must be >= 0, got " ++ toString n
  | baseDelayNegative x => "base_delay must be >= 0, got " ++ x.text
  | maxDelayNegative x => "max_delay must be >= 0, got " ++ x.text
  | urlEmpty => "Connection url cannot be empty"
  | timeoutNotPositive x => "Timeout must be positive, got " ++ x.text
  | badEmptySelection v => "Invalid empty_selection: " ++ v.shown
  | badLogLevel v levels =>
    "Invalid log_level: " ++ v.shown ++ " (expected one of " ++ ", ".intercalate levels ++ ")"
  | badConfiguration reason => "Invalid configuration: " ++ reason
  | configurationNotMapping path => "Configuration in " ++ path ++ " must be a mapping"

end Invalid

end ObjectStore
