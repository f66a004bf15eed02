import MdPrsr.Variant

/-!
# NASDAQ ITCH 5.0 messages

The type id of a message is the default of its first member, and a variant is
told apart by its first byte.
-/
namespace MdPrsr.Itch
open Wire

def stockT : MemberType := chars 8

def systemEvent : Message where
  name := "system_event"
  typeId := 'S'.toNat
  members := [
    ("message_type", char), ("stock_locate", uint16), ("tracking_number", uint16),
    ("timestamp", timestamp), ("event_code", char)]
  table := ["message_type", "stock_locate", "tracking_number", "timestamp", "event_code"]

def stockDirectory : Message where
  name := "stock_directory"
  typeId := 'R'.toNat
  members := [
    ("message_type", char), ("stock_locate", uint16), ("tracking_number", uint16),
    ("timestamp", timestamp), ("stock", stockT), ("market_category", char),
    ("financial_status_indicator", char), ("round_lot_size", uint32), ("round_lots_only", char),
    ("issue_classification", char), ("issue_sub_type", chars 2), ("authenticity", char),
    ("short_sale_threshold_indicator", char), ("ipo_flag", char),
    ("luld_reference_price_tier", char), ("etp_flag", char), ("etp_leverage_factor", uint32),
    ("inverse_indicator", char)]
  table := [
    "message_type", "stock_locate", "tracking_number", "timestamp", "stock", "market_category",
    "financial_status_indicator", "round_lot_size", "round_lots_only", "issue_classification",
    "issue_sub_type", "authenticity", "short_sale_threshold_indicator", "ipo_flag",
    "luld_reference_price_tier", "etp_flag", "etp_leverage_factor", "inverse_indicator"]

def stockTradingAction : Message where
  name := "stock_trading_action"
  typeId := 'H'.toNat
  members := [
    ("message_type", char), ("stock_locate", uint16), ("tracking_number", uint16),
    ("timestamp", timestamp), ("stock", stockT), ("trading_state", char), ("reserved", char),
    ("reason", chars 4)]
  table := [
    "message_type", "stock_locate", "tracking_number", "timestamp", "stock", "trading_state",
    "reserved", "reason"]

def regSho : Message where
  name := "reg_sho"
  typeId := 'Y'.toNat
  members := [
    ("message_type", char), ("stock_locate", uint16), ("tracking_number", uint16),
    ("timestamp", timestamp), ("stock", stockT), ("reg_sho_action", char)]
  table := [
    "message_type", "stock_locate", "tracking_number", "timestamp", "stock", "reg_sho_action"]

def marketParticipantPosition : Message where
  name := "market_participant_position"
  typeId := 'L'.toNat
  members := [
    ("message_type", char), ("stock_locate", uint16), ("tracking_number", uint16),
    ("timestamp", timestamp), ("mpid", chars 4), ("stock", stockT), ("primary_market_maker", char),
    ("market_maker_mode", char), ("market_participant_state", char)]
  table := [
    "message_type", "stock_locate", "tracking_number", "timestamp", "mpid", "stock",
    "primary_market_maker", "market_maker_mode", "market_participant_state"]

def mwcbDeclineLevel : Message where
  name := "mwcb_decline_level"
  typeId := 'V'.toNat
  members := [
    ("message_type", char), ("stock_locate", uint16), ("tracking_number", uint16),
    ("timestamp", timestamp), ("level1", uint64), ("level2", uint64), ("level3", uint64)]
  table := [
    "message_type", "stock_locate", "tracking_number", "timestamp", "level1", "level2", "level3"]

def mwcbStatus : Message where
  name := "mwcb_status"
  typeId := 'W'.toNat
  members := [
    ("message_type", char), ("stock_locate", uint16), ("tracking_number", uint16),
    ("timestamp", timestamp), ("breached_level", char)]
  table := ["message_type", "stock_locate", "tracking_number", "timestamp", "breached_level"]

def quotingPeriodUpdate : Message where
  name := "quoting_period_update"
  typeId := 'K'.toNat
  members := [
    ("message_type", char), ("stock_locate", uint16), ("tracking_number", uint16),
    ("timestamp", timestamp), ("stock", stockT), ("ipo_quotation_release_time", uint32),
    ("ipo_release_qualifier", char), ("ipo_price", uint32)]
  table := [
    "message_type", "stock_locate", "tracking_number", "timestamp", "stock",
    "ipo_quotation_release_time", "ipo_release_qualifier", "ipo_price"]

def luld : Message where
  name := "luld"
  typeId := 'J'.toNat
  members := [
    ("message_type", char), ("stock_locate", uint16), ("tracking_number", uint16),
    ("timestamp", timestamp), ("stock", stockT), ("auction_collar_reference_price", uint32),
    ("upper_auction_collar_price", uint32), ("lower_auction_collar_price", uint32),
    ("auction_collar_extension", uint32)]
  table := [
    "message_type", "stock_locate", "tracking_number", "timestamp", "stock",
    "auction_collar_reference_price", "upper_auction_collar_price", "lower_auction_collar_price",
    "auction_collar_extension"]

def operationalHalt : Message where
  name := "operational_halt"
  typeId := 'h'.toNat
  members := [
    ("message_type", char), ("stock_locate", uint16), ("tracking_number", uint16),
    ("timestamp", timestamp), ("stock", stockT), ("market_code", char),
    ("operational_halt_action", char)]
  table := [
    "message_type", "stock_locate", "tracking_number", "timestamp", "stock", "market_code",
    "operational_halt_action"]

def addOrder : Message where
  name := "add_order"
  typeId := 'A'.toNat
  members := [
    ("message_type", char), ("stock_locate", uint16), ("tracking_number", uint16),
    ("timestamp", timestamp), ("order_reference_number", uint64), ("buy_sell_indicator", char),
    ("shares", uint32), ("stock", stockT), ("price", uint32)]
  table := [
    "message_type", "stock_locate", "tracking_number", "timestamp", "order_reference_number",
    "buy_sell_indicator", "shares", "stock", "price"]

def addOrderMpid : Message where
  name := "add_order_mpid"
  typeId := 'F'.toNat
  members := [
    ("message_type", char), ("stock_locate", uint16), ("tracking_number", uint16),
    ("timestamp", timestamp), ("order_reference_number", uint64), ("buy_sell_indicator", char),
    ("shares", uint32), ("stock", stockT), ("price", uint32), ("attribution", chars 4)]
  table := [
    "message_type", "stock_locate", "tracking_number", "timestamp", "order_reference_number",
    "buy_sell_indicator", "shares", "stock", "price", "attribution"]

def orderExecuted : Message where
  name := "order_executed"
  typeId := 'E'.toNat
  members := [
    ("message_type", char), ("stock_locate", uint16), ("tracking_number", uint16),
    ("timestamp", timestamp), ("order_reference_number", uint64), ("executed_shares", uint32),
    ("match_number", uint64)]
  table := [
    "message_type", "stock_locate", "tracking_number", "timestamp", "order_reference_number",
    "executed_shares", "match_number"]

def orderExecutedWithPrice : Message where
  name := "order_executed_with_price"
  typeId := 'C'.toNat
  members := [
    ("message_type", char), ("stock_locate", uint16), ("tracking_number", uint16),
    ("timestamp", timestamp), ("order_reference_number", uint64), ("executed_shares", uint32),
    ("match_number", uint64), ("printable", char), ("execution_price", uint32)]
  table := [
    "message_type", "stock_locate", "tracking_number", "timestamp", "order_reference_number",
    "executed_shares", "match_number", "printable", "execution_price"]

def orderCancel : Message where
  name := "order_cancel"
  typeId := 'X'.toNat
  members := [
    ("message_type", char), ("stock_locate", uint16), ("tracking_number", uint16),
    ("timestamp", timestamp), ("order_reference_number", uint64), ("canceled_shares", uint32)]
  table := [
    "message_type", "stock_locate", "tracking_number", "timestamp", "order_reference_number",
    "canceled_shares"]

def orderDelete : Message where
  name := "order_delete"
  typeId := 'D'.toNat
  members := [
    ("message_type", char), ("stock_locate", uint16), ("tracking_number", uint16),
    ("timestamp", timestamp), ("order_reference_number", uint64)]
  table := [
    "message_type", "stock_locate", "tracking_number", "timestamp", "order_reference_number"]

def orderReplace : Message where
  name := "order_replace"
  typeId := 'U'.toNat
  members := [
    ("message_type", char), ("stock_locate", uint16), ("tracking_number", uint16),
    ("timestamp", timestamp), ("original_order_reference_number", uint64),
    ("new_order_reference_number", uint64), ("shares", uint32), ("price", uint32)]
  table := [
    "message_type", "stock_locate", "tracking_number", "timestamp",
    "original_order_reference_number", "new_order_reference_number", "shares", "price"]

def trade : Message where
  name := "trade"
  typeId := 'P'.toNat
  members := [
    ("message_type", char), ("stock_locate", uint16), ("tracking_number", uint16),
    ("timestamp", timestamp), ("order_reference_number", uint64), ("buy_sell_indicator", char),
    ("shares", uint32), ("stock", stockT), ("price", uint32), ("match_number", uint64)]
  table := [
    "message_type", "stock_locate", "tracking_number", "timestamp", "order_reference_number",
    "buy_sell_indicator", "shares", "stock", "price", "match_number"]

def crossTrade : Message where
  name := "cross_trade"
  typeId := 'Q'.toNat
  members := [
    ("message_type", char), ("stock_locate", uint16), ("tracking_number", uint16),
    ("timestamp", timestamp), ("shares", uint64), ("stock", stockT), ("cross_price", uint32),
    ("match_number", uint64), ("cross_type", char)]
  table := [
    "message_type", "stock_locate", "tracking_number", "timestamp", "shares", "stock",
    "cross_price", "match_number", "cross_type"]

def brokenTradeMessage : Message where
  name := "broken_trade_message"
  typeId := 'B'.toNat
  members := [
    ("message_type", char), ("stock_locate", uint16), ("tracking_number", uint16),
    ("timestamp", timestamp), ("match_number", uint64)]
  table := ["message_type", "stock_locate", "tracking_number", "timestamp", "match_number"]

def noii : Message where
  name := "noii"
  typeId := 'I'.toNat
  members := [
    ("message_type", char), ("stock_locate", uint16), ("tracking_number", uint16),
    ("timestamp", timestamp), ("paired_shares", uint64), ("imbalance_shares", uint64),
    ("imbalance_direction", char), ("stock", stockT), ("far_price", uint32), ("near_price", uint32),
    ("current_reference_price", uint32), ("cross_type", char), ("price_variation_indicator", char)]
  table := [
    "message_type", "stock_locate", "tracking_number", "timestamp", "paired_shares",
    "imbalance_shares", "imbalance_direction", "stock", "far_price", "near_price",
    "current_reference_price", "cross_type", "price_variation_indicator"]

def rpii : Message where
  name := "rpii"
  typeId := 'N'.toNat
  members := [
    ("message_type", char), ("stock_locate", uint16), ("tracking_number", uint16),
    ("timestamp", timestamp), ("stock", stockT), ("interest_flag", char)]
  table := [
    "message_type", "stock_locate", "tracking_number", "timestamp", "stock", "interest_flag"]

def directListingWithCapitalRaisePriceDiscovery : Message where
  name := "direct_listing_with_capital_raise_price_discovery"
  typeId := 'O'.toNat
  members := [
    ("message_type", char), ("stock_locate", uint16), ("tracking_number", uint16),
    ("timestamp", timestamp), ("stock", stockT), ("open_eligibility_status", char),
    ("minimum_allowable_price", uint32), ("maximum_allowable_price", uint32),
    ("near_execution_price", uint32), ("near_execution_time", uint64),
    ("lower_price_range_collar", uint32), ("upper_price_range_collar", uint32)]
  table := [
    "message_type", "stock_locate", "tracking_number", "timestamp", "stock",
    "open_eligibility_status", "minimum_allowable_price", "maximum_allowable_price",
    "near_execution_price", "near_execution_time", "lower_price_range_collar",
    "upper_price_range_collar"]

def messages : Variant where
  order := .big
  header := char
  idInHeader := []
  idOffset := 0
  idType := .char
  located := by decide
  alternatives := [
    systemEvent, stockDirectory, stockTradingAction, regSho, marketParticipantPosition,
    mwcbDeclineLevel, mwcbStatus, quotingPeriodUpdate, luld, operationalHalt, addOrder,
    addOrderMpid, orderExecuted, orderExecutedWithPrice, orderCancel, orderDelete, orderReplace,
    trade, crossTrade, brokenTradeMessage, noii, rpii, directListingWithCapitalRaisePriceDiscovery]
  distinct := by decide
  idMember := ["message_type"]
  carried := by decide +kernel

end MdPrsr.Itch
