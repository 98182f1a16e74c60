import Notices.Value.Basic

/-!
# Sample data

A test of a template is filled in with sample data, which has a value for the
variables of every trigger.  Its due date is a week from now.
-/

namespace Notices.Sample

/-- How many days after the test the sample is due. -/
def daysUntilDue : Nat := 7

/-- The fields of the sample that do not change. -/
def constants : Fields := [
  ("customer_name", .string "Test Customer"),
  ("invoice_number", .string "INV-99999"),
  ("total_amount", .string "127.50"),
  ("items_list", .string
    "<ul><li>Mickey Spirit Jersey - $79.99</li><li>Loungefly Mini Backpack - $85.00</li></ul>"),
  ("items_list_text", .string
    "- Mickey Spirit Jersey - $79.99\n- Loungefly Mini Backpack - $85.00"),
  ("invoice_url", .string "https://enchantedparkpickups.com/invoice/test"),
  ("tracking_number", .string "9400111899223847563012"),
  ("carrier", .string "USPS"),
  ("tracking_url", .string
    "https://tools.usps.com/go/TrackConfirmAction?tLabels=9400111899223847563012"),
  ("item_name", .string "Figment Popcorn Bucket"),
  ("item_description", .string
    "Limited edition Figment-shaped popcorn bucket from EPCOT Festival of the Arts"),
  ("item_price", .string "35.00"),
  ("park", .string "Disney World - EPCOT"),
  ("image_url", .string "https://example.com/figment.jpg"),
  ("request_url",
    .string "https://enchantedparkpickups.com/new-releases?request=test"),
  ("unsubscribe_url",
    .string "https://enchantedparkpickups.com/unsubscribe?id=test")]

/-- The sample at a time, unless its due date is after the last year of the
calendar. -/
def context? (now : Timestamp) : Option Fields :=
  (now.addDays? daysUntilDue).map fun due =>
    constants ++ [("due_date", .string (String.ofList due.shortDate))]

end Notices.Sample
