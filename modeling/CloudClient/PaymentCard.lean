import CloudClient.Client

/-!
# Payment cards

A card is sent as it is given, once every field that the server requires is there.
-/

namespace CloudClient.PaymentCard

def required : List String := ["card_number", "expiry_month", "expiry_year", "cvv"]

def missing (card : Json) : List String :=
  required.filter fun name => (card.getSome? name).isNone

def check (card : Json) : Except Error Unit := do
  if card.asObj?.isNone then .error (.invalidInput "card must be a JSON object")
  if !(missing card).isEmpty then
    .error (.invalidInput ("card is missing " ++ String.intercalate ", " (missing card)))

def body (card : Json) (isDefault : Bool) : Json :=
  .ofEntries [("type", .str "credit_card"), ("is_default", .bool isDefault), ("data", card)]

end PaymentCard

/-- Adds a card to the account; false when the answer reports a failure. -/
def Client.addPaymentCard (c : Client) (card : Json) (isDefault : Bool) : Step World Bool := do
  .ofExcept (PaymentCard.check card)
  World.note .info ("Adding payment card (default: " ++ toString isDefault ++ ")")
  let answer ← c.post "/account/payment-methods" (PaymentCard.body card isDefault)
  return !answer.hasErrorMarker

end CloudClient
