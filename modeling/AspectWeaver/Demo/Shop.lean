import AspectWeaver.Call.Argument
import AspectWeaver.Call.Behaviours
import AspectWeaver.Inventory

/-!
# The shop

A shop to demonstrate weaving on: a stock of goods, which an aspect audits, and prices, on which an
interceptor gives a discount.
-/

set_option autoImplicit false

namespace AspectWeaver.Demo

/-- The code of the shop. -/
inductive ShopCode where
  /-- Adds to the stock of an article. -/
  | restock
  /-- Takes some pieces of an article. -/
  | takeSome
  /-- Takes one piece of an article. -/
  | takeOne
  /-- The price of an article. -/
  | quote
  /-- Takes a fifth off a price. -/
  | discount
  /-- Refuses to take more pieces than the limit. -/
  | checkLimit (limit : UInt32)
  /-- Logs the stock that is left. -/
  | recordLevel
  /-- Tries a second time after a failure. -/
  | retryOnce
deriving DecidableEq, Inhabited, Repr

/-- The pieces of each article, for each stock. -/
abbrev Stocks := Table Nat (Table String UInt32)

namespace Stocks

/-- The pieces of an article in a stock. -/
def level? (stocks : Stocks) (id : Nat) (article : String) : Option UInt32 :=
  (stocks.get? id).bind (·.get? article)

/-- The stocks with another number of pieces. -/
def setLevel (stocks : Stocks) (id : Nat) (article : String) (pieces : UInt32) : Stocks :=
  stocks.insert id (((stocks.get? id).getD Table.empty).insert article pieces)

/-- Takes pieces out of a stock and gives the number that is left. -/
def take (stocks : Stocks) (id : Nat) (article : String) (pieces : UInt32) :
    Except Failure UInt32 × Stocks :=
  match stocks.level? id article with
  | none => (.error (Failure.ofText ("unknown sku '" ++ article ++ "'")), stocks)
  | some level =>
    if level < pieces then
      (.error (Failure.ofText ("insufficient stock for '" ++ article ++ "': " ++ toString level ++
        " < " ++ toString pieces)), stocks)
    else (.ok (level - pieces), stocks.setLevel id article (level - pieces))

/-- Puts pieces into a stock and gives the number that is there then. -/
def restock (stocks : Stocks) (id : Nat) (article : String) (pieces : UInt32) : UInt32 × Stocks :=
  let level := (stocks.level? id article).getD 0 + pieces
  (level, stocks.setLevel id article level)

end Stocks

/-- The text at a position of the arguments. -/
def articleAt (args : List Value) (index : Nat) : Except Failure String :=
  (argument .text args index).map fun v => v.text?.getD ""

/-- The number of pieces at a position of the arguments. -/
def piecesAt (args : List Value) (index : Nat) : Except Failure UInt32 :=
  (argument .word32 args index).map fun v => v.word32?.getD 0

/-- Takes pieces of an article out of the stock of a target. -/
def takePieces (target : Target) (article : String) (pieces : UInt32) :
    Action (World Stocks) (Option Value) :=
  Action.of fun w =>
    let (left, stocks) := w.state.take target.id article pieces
    (left.map fun n => some (.word32 n), { w with state := stocks })

/-- The methods of the shop. -/
def ShopCode.runMethod (target : Target) (args : List Value) :
    ShopCode → Action (World Stocks) (Option Value)
  | .restock => do
    let article ← articleAt args 0
    let pieces ← piecesAt args 1
    Action.of fun w =>
      let (level, stocks) := w.state.restock target.id article pieces
      (.ok (some (.word32 level)), { w with state := stocks })
  | .takeSome => do
    let article ← articleAt args 0
    let pieces ← piecesAt args 1
    takePieces target article pieces
  | .takeOne => do takePieces target (← articleAt args 0) 1
  | .quote => do
    let article ← articleAt args 0
    pure (some (.word64 (UInt64.ofNat article.utf8ByteSize * 250)))
  | _ => pure none

/-- A number that may be missing, as it stands in the log. -/
def loggedNumber (n : Option UInt32) : FieldValue := .text (Text.optional (n.map toString))

/-- Refuses a join point that takes more than the limit, and leaves a note of the limit. -/
def withinLimit (limit : UInt32) (jp : JoinPoint) : Except Failure JoinPoint :=
  let noted := jp.setParam "audit.limit" (.word32 limit)
  match (jp.arg? .word32 1).bind Value.word32? with
  | some pieces =>
    if limit < pieces then
      .error (Failure.ofText ("take of " ++ toString pieces ++ " exceeds the audit limit " ++
        toString limit))
    else .ok noted
  | none => .ok noted

/-- The log line about the stock that is left. -/
def levelEvent (jp : JoinPoint) (_ : Nat) : Event :=
  ⟨.info, "Audit: " ++ jp.signature.text,
    [("stock", loggedNumber (jp.result.bind Value.word32?)),
      ("limit", loggedNumber ((jp.param? "audit.limit").bind Value.word32?))]⟩

/-- The advices of the shop that do not run around a call. -/
def ShopCode.runAdvice : ShopCode → Action (JoinPoint × World Stocks) Unit
  | .checkLimit limit =>
    Action.of fun (jp, w) =>
      match withinLimit limit jp with
      | .ok noted => (.ok (), (noted, w))
      | .error f => (.error f, (jp, w))
  | .recordLevel => tellAt levelEvent
  | _ => pure ()

/-- What runs around the calls of the shop. -/
def ShopCode.course : ShopCode → Around (JoinPoint × World Stocks) (Option Value)
  | .retryOnce => do
    match ← Around.tryProceed with
    | .ok value => pure value
    | .error f => do
      Around.ofAction (tellAt fun jp _ =>
        ⟨.warn, "Retrying " ++ jp.signature.text ++ " after: " ++ f.message, []⟩)
      Around.proceedOrFail
  | .discount => do
    let price := ((← Around.proceedOrFail).bind Value.word64?).getD 0
    Around.ofAction (tellAt fun jp _ =>
      ⟨.info, "Applying discount on " ++ jp.signature.text, [("original", .number price.toNat)]⟩)
    pure (some (.word64 (price * 8 / 10)))
  | _ => Around.proceedOrFail

/-- The meaning of the shop's code. -/
def behaviours : Behaviours ShopCode Stocks where
  method code target args := code.runMethod target args
  advice code := code.runAdvice
  throwing code _ := code.runAdvice
  around code := code.course
  intercept i := i.marker.code.course

/-! ## What the shop publishes -/

/-- The name of the type with the stock. -/
def inventoryType : String := "shop.InventoryService"

/-- The name of the type with the prices. -/
def pricingType : String := "shop.PricingService"

/-- The type with the stock. -/
def inventoryService : TypeDescriptor ShopCode :=
  (((TypeDescriptor.concrete inventoryType inventoryType).method "restock" ["String", "u32"]
    .restock).method "take" ["String", "u32"] .takeSome).method "take" ["String"] .takeOne

/-- The type with the prices. -/
def pricingService : TypeDescriptor ShopCode :=
  (((TypeDescriptor.concrete pricingType pricingType).method "quote" ["String"]
    .quote).interceptedBy ⟨"DiscountInterceptor", "DiscountInterceptor", .discount⟩).value

/-- The aspect that audits the stock. -/
def auditAspect : Aspect ShopCode :=
  (((Aspect.empty "AuditAspect").declare .before "shop.InventoryService.take(...)" 10
    (.custom (.checkLimit 100))).declare .afterReturning "shop.InventoryService.*(String,u32)" 0
    (.custom .recordLevel)).declare .around "shop.InventoryService.take(String)" 0
    (.custom .retryOnce)

/-- What the shop publishes. -/
def shopInventory : Inventory ShopCode where
  types := [(inventoryType, inventoryService), (pricingType, pricingService)]
  aspects := [("AuditAspect", auditAspect)]

end AspectWeaver.Demo
