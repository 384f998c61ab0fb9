import ArticleMarkup.Schema.Override

/-!
# Render failures

Unknown markup never fails a render. What fails it are the limits on size, nesting and number of
elements; and a renderer cannot be made from overrides that the schema refuses.

## Main definitions

- `RenderError`, `RenderError.message` — a limit that an article exceeds
- `ConfigError`, `ConfigError.message` — why there is no renderer for a configuration
-/

namespace ArticleMarkup

/-- **A limit that an article exceeds.** -/
inductive RenderError where
  /-- The article has too many bytes. -/
  | inputTooLarge (size limit : Nat)
  /-- Something is nested at this depth. -/
  | nestingTooDeep (depth limit : Nat)
  /-- The article would have at least so many elements. -/
  | tooManyElements (estimate limit : Nat)
deriving DecidableEq, Repr

/-- The wording of a render error. -/
def RenderError.message : RenderError → String
  | .inputTooLarge size limit => s!"input is {size} bytes, exceeding the {limit} byte limit"
  | .nestingTooDeep depth limit =>
    s!"document nesting reached depth {depth}, exceeding the limit of {limit}"
  | .tooManyElements estimate limit =>
    s!"document would build at least {estimate} elements, exceeding the limit of {limit}"

/-- **Why there is no renderer** for a configuration. -/
inductive ConfigError where
  /-- A renderer is in place already. -/
  | alreadyConfigured
  /-- The overrides are refused. -/
  | schema (error : SchemaError)
deriving DecidableEq, Repr

/-- The wording of a configuration error. -/
def ConfigError.message : ConfigError → String
  | .alreadyConfigured => "render service already configured"
  | .schema e => e.message

end ArticleMarkup
