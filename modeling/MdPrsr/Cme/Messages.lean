import MdPrsr.Variant

/-!
# CME MDP3 messages, schema versions 9 and 13

The scalar aliases of the schemas (`Int8`, `uInt32`, `CHAR` and so on) are written
as the scalars they stand for. Of an enumeration only the underlying type and the
`NotPresent` value matter to the coders.
-/
namespace MdPrsr.Cme.V9
open Wire

def asset : MemberType := chars 6
def cfiCode : MemberType := chars 6
def currency : MemberType := chars 3
def mdFeedType : MemberType := chars 3
def quoteReqId : MemberType := chars 23
def securityExchange : MemberType := chars 4
def securityGroup : MemberType := chars 6
def securitySubType : MemberType := chars 5
def securityType : MemberType := chars 6
def symbol : MemberType := chars 20
def text : MemberType := chars 180
def underlyingSymbol : MemberType := chars 20
def unitOfMeasure : MemberType := chars 30
def userDefinedInstrument : MemberType := chars 1

def aggressorSide : Enumeration := ⟨.uint8, 255⟩
def eventType : MemberType := uint8
def haltReason : MemberType := uint8
def legSide : MemberType := uint8
def mdEntryType : MemberType := char
def mdEntryTypeBook : MemberType := char
def mdEntryTypeDailyStatistics : MemberType := char
def mdEntryTypeStatistics : MemberType := char
def mdUpdateAction : MemberType := uint8
def openCloseSettlFlag : Enumeration := ⟨.uint8, 255⟩
def orderUpdateAction : MemberType := uint8
def putOrCall : MemberType := uint8
def securityTradingEvent : MemberType := uint8
def securityTradingStatus : Enumeration := ⟨.uint8, 255⟩
def securityUpdateAction : MemberType := char
def instAttribValue : MemberType := uint32
def matchEventIndicator : MemberType := uint8
def settlPriceType : MemberType := uint8

def decimal9 : Struct where
  members := [("mantissa", int64)]
  table := ["mantissa"]

def decimal9NULL : Struct where
  members := [("mantissa", optional .int64 9223372036854775807)]
  table := ["mantissa"]

def decimalQty : Struct where
  members := [("mantissa", optional .int32 2147483647)]
  table := ["mantissa"]

def float : Struct where
  members := [("mantissa", int64)]
  table := ["mantissa"]

def maturityMonthYear : Struct where
  members := [
    ("year", optional .uint16 65535), ("month", optional .uint8 255), ("day", optional .uint8 255),
    ("week", optional .uint8 255)]
  table := ["year", "month", "day", "week"]

def price : Struct where
  members := [("mantissa", int64)]
  table := ["mantissa"]

def price9 : Struct where
  members := [("mantissa", int64)]
  table := ["mantissa"]

def pricenull : Struct where
  members := [("mantissa", optional .int64 9223372036854775807)]
  table := ["mantissa"]

def pricenull9 : Struct where
  members := [("mantissa", optional .int64 9223372036854775807)]
  table := ["mantissa"]

def messageHeader : Struct where
  members := [
    ("blockLength", uint16), ("templateId", uint16), ("schemaId", uint16), ("version", uint16)]
  table := ["blockLength", "templateId", "schemaId", "version"]

def groupSize : GroupSize where
  struct := {
    members := [("blockLength", uint16), ("numInGroup", uint8)]
    table := ["blockLength", "numInGroup"] }
  blockLength r := BitVec.toNat (w := 16) (Record.head r)
  numInGroup r := BitVec.toNat (w := 8) (Record.head (Record.tail r))
  countBits := 8
  sized n := .cons (0 : BitVec 16) (.cons (BitVec.ofNat 8 n) .nil)
  blockLength_sized _ := rfl
  numInGroup_sized n := BitVec.toNat_ofNat n 8
  untimed := by decide

def groupSize8Byte : GroupSize where
  struct := {
    members := [("blockLength", uint16), ("padding_1", padding 5), ("numInGroup", uint8)]
    table := ["blockLength", "padding_1", "numInGroup"] }
  blockLength r := BitVec.toNat (w := 16) (Record.head r)
  numInGroup r := BitVec.toNat (w := 8) (Record.head (Record.tail (Record.tail r)))
  countBits := 8
  sized n := .cons (0 : BitVec 16) (.cons () (.cons (BitVec.ofNat 8 n) .nil))
  blockLength_sized _ := rfl
  numInGroup_sized n := BitVec.toNat_ofNat n 8
  untimed := by decide

def groupSizeEncoding : GroupSize where
  struct := {
    members := [("blockLength", uint16), ("numInGroup", uint16)]
    table := ["blockLength", "numInGroup"] }
  blockLength r := BitVec.toNat (w := 16) (Record.head r)
  numInGroup r := BitVec.toNat (w := 16) (Record.head (Record.tail r))
  countBits := 16
  sized n := .cons (0 : BitVec 16) (.cons (BitVec.ofNat 16 n) .nil)
  blockLength_sized _ := rfl
  numInGroup_sized n := BitVec.toNat_ofNat n 16
  untimed := by decide

def channelReset4.noMDEntries : Struct where
  members := [("applID", int16)]
  table := ["applID"]

def channelReset4 : Message where
  name := "ChannelReset4"
  typeId := 4
  members := [
    ("msg_size", uint16), ("message_header", messageHeader.layout), ("transactTime", uint64),
    ("matchEventIndicator", matchEventIndicator)]
  groups := [⟨"noMDEntries", channelReset4.noMDEntries, groupSize⟩]
  table := ["msg_size", "message_header", "transactTime", "matchEventIndicator", "noMDEntries"]

def adminHeartbeat12 : Message where
  name := "AdminHeartbeat12"
  typeId := 12
  members := [("msg_size", uint16), ("message_header", messageHeader.layout)]
  table := ["msg_size", "message_header"]

def adminLogin15 : Message where
  name := "AdminLogin15"
  typeId := 15
  members := [("msg_size", uint16), ("message_header", messageHeader.layout), ("heartBtInt", int8)]
  table := ["msg_size", "message_header", "heartBtInt"]

def adminLogout16 : Message where
  name := "AdminLogout16"
  typeId := 16
  members := [("msg_size", uint16), ("message_header", messageHeader.layout), ("text", text)]
  table := ["msg_size", "message_header", "text"]

def mdInstrumentDefinitionFuture27.noEvents : Struct where
  members := [("eventType", eventType), ("eventTime", uint64)]
  table := ["eventType", "eventTime"]

def mdInstrumentDefinitionFuture27.noMDFeedTypes : Struct where
  members := [("mDFeedType", mdFeedType), ("marketDepth", int8)]
  table := ["mDFeedType", "marketDepth"]

def mdInstrumentDefinitionFuture27.noInstAttrib : Struct where
  members := [("instAttribValue", instAttribValue)]
  table := ["instAttribValue"]

def mdInstrumentDefinitionFuture27.noLotTypeRules : Struct where
  members := [("lotType", int8), ("minLotSize", decimalQty.layout)]
  table := ["lotType", "minLotSize"]

def mdInstrumentDefinitionFuture27 : Message where
  name := "MDInstrumentDefinitionFuture27"
  typeId := 27
  members := [
    ("msg_size", uint16), ("message_header", messageHeader.layout),
    ("matchEventIndicator", matchEventIndicator), ("totNumReports", optional .uint32 4294967295),
    ("securityUpdateAction", securityUpdateAction), ("lastUpdateTime", uint64),
    ("mDSecurityTradingStatus", securityTradingStatus.optional), ("applID", int16),
    ("marketSegmentID", uint8), ("underlyingProduct", uint8),
    ("securityExchange", securityExchange), ("securityGroup", securityGroup), ("asset", asset),
    ("symbol", symbol), ("securityID", int32), ("securityType", securityType), ("cFICode", cfiCode),
    ("maturityMonthYear", maturityMonthYear.layout), ("currency", currency),
    ("settlCurrency", currency), ("matchAlgorithm", char), ("minTradeVol", uint32),
    ("maxTradeVol", uint32), ("minPriceIncrement", price.layout), ("displayFactor", float.layout),
    ("mainFraction", optional .uint8 255), ("subFraction", optional .uint8 255),
    ("priceDisplayFormat", optional .uint8 255), ("unitOfMeasure", unitOfMeasure),
    ("unitOfMeasureQty", pricenull.layout), ("tradingReferencePrice", pricenull.layout),
    ("settlPriceType", settlPriceType), ("openInterestQty", optional .int32 2147483647),
    ("clearedVolume", optional .int32 2147483647), ("highLimitPrice", pricenull.layout),
    ("lowLimitPrice", pricenull.layout), ("maxPriceVariation", pricenull.layout),
    ("decayQuantity", optional .int32 2147483647), ("decayStartDate", optional .uint16 65535),
    ("originalContractSize", optional .int32 2147483647),
    ("contractMultiplier", optional .int32 2147483647),
    ("contractMultiplierUnit", optional .int8 127), ("flowScheduleType", optional .int8 127),
    ("minPriceIncrementAmount", pricenull.layout), ("userDefinedInstrument", userDefinedInstrument),
    ("tradingReferenceDate", optional .uint16 65535)]
  groups := [
    ⟨"noEvents", mdInstrumentDefinitionFuture27.noEvents, groupSize⟩,
    ⟨"noMDFeedTypes", mdInstrumentDefinitionFuture27.noMDFeedTypes, groupSize⟩,
    ⟨"noInstAttrib", mdInstrumentDefinitionFuture27.noInstAttrib, groupSize⟩,
    ⟨"noLotTypeRules", mdInstrumentDefinitionFuture27.noLotTypeRules, groupSize⟩]
  table := [
    "msg_size", "message_header", "matchEventIndicator", "totNumReports", "securityUpdateAction",
    "lastUpdateTime", "mDSecurityTradingStatus", "applID", "marketSegmentID", "underlyingProduct",
    "securityExchange", "securityGroup", "asset", "symbol", "securityID", "securityType", "cFICode",
    "maturityMonthYear", "currency", "settlCurrency", "matchAlgorithm", "minTradeVol",
    "maxTradeVol", "minPriceIncrement", "displayFactor", "mainFraction", "subFraction",
    "priceDisplayFormat", "unitOfMeasure", "unitOfMeasureQty", "tradingReferencePrice",
    "settlPriceType", "openInterestQty", "clearedVolume", "highLimitPrice", "lowLimitPrice",
    "maxPriceVariation", "decayQuantity", "decayStartDate", "originalContractSize",
    "contractMultiplier", "contractMultiplierUnit", "flowScheduleType", "minPriceIncrementAmount",
    "userDefinedInstrument", "tradingReferenceDate", "noEvents", "noMDFeedTypes", "noInstAttrib",
    "noLotTypeRules"]

def mdInstrumentDefinitionSpread29.noEvents : Struct where
  members := [("eventType", eventType), ("eventTime", uint64)]
  table := ["eventType", "eventTime"]

def mdInstrumentDefinitionSpread29.noMDFeedTypes : Struct where
  members := [("mDFeedType", mdFeedType), ("marketDepth", int8)]
  table := ["mDFeedType", "marketDepth"]

def mdInstrumentDefinitionSpread29.noInstAttrib : Struct where
  members := [("instAttribValue", instAttribValue)]
  table := ["instAttribValue"]

def mdInstrumentDefinitionSpread29.noLotTypeRules : Struct where
  members := [("lotType", int8), ("minLotSize", decimalQty.layout)]
  table := ["lotType", "minLotSize"]

def mdInstrumentDefinitionSpread29.noLegs : Struct where
  members := [
    ("legSecurityID", int32), ("legSide", legSide), ("legRatioQty", int8),
    ("legPrice", pricenull.layout), ("legOptionDelta", decimalQty.layout)]
  table := ["legSecurityID", "legSide", "legRatioQty", "legPrice", "legOptionDelta"]

def mdInstrumentDefinitionSpread29 : Message where
  name := "MDInstrumentDefinitionSpread29"
  typeId := 29
  members := [
    ("msg_size", uint16), ("message_header", messageHeader.layout),
    ("matchEventIndicator", matchEventIndicator), ("totNumReports", optional .uint32 4294967295),
    ("securityUpdateAction", securityUpdateAction), ("lastUpdateTime", uint64),
    ("mDSecurityTradingStatus", securityTradingStatus.optional), ("applID", int16),
    ("marketSegmentID", uint8), ("underlyingProduct", optional .uint8 255),
    ("securityExchange", securityExchange), ("securityGroup", securityGroup), ("asset", asset),
    ("symbol", symbol), ("securityID", int32), ("securityType", securityType), ("cFICode", cfiCode),
    ("maturityMonthYear", maturityMonthYear.layout), ("currency", currency),
    ("securitySubType", securitySubType), ("userDefinedInstrument", userDefinedInstrument),
    ("matchAlgorithm", char), ("minTradeVol", uint32), ("maxTradeVol", uint32),
    ("minPriceIncrement", price.layout), ("displayFactor", float.layout),
    ("priceDisplayFormat", optional .uint8 255), ("priceRatio", pricenull.layout),
    ("tickRule", optional .int8 127), ("unitOfMeasure", unitOfMeasure),
    ("tradingReferencePrice", pricenull.layout), ("settlPriceType", settlPriceType),
    ("openInterestQty", optional .int32 2147483647), ("clearedVolume", optional .int32 2147483647),
    ("highLimitPrice", pricenull.layout), ("lowLimitPrice", pricenull.layout),
    ("maxPriceVariation", pricenull.layout), ("mainFraction", optional .uint8 255),
    ("subFraction", optional .uint8 255), ("tradingReferenceDate", optional .uint16 65535)]
  groups := [
    ⟨"noEvents", mdInstrumentDefinitionSpread29.noEvents, groupSize⟩,
    ⟨"noMDFeedTypes", mdInstrumentDefinitionSpread29.noMDFeedTypes, groupSize⟩,
    ⟨"noInstAttrib", mdInstrumentDefinitionSpread29.noInstAttrib, groupSize⟩,
    ⟨"noLotTypeRules", mdInstrumentDefinitionSpread29.noLotTypeRules, groupSize⟩,
    ⟨"noLegs", mdInstrumentDefinitionSpread29.noLegs, groupSize⟩]
  table := [
    "msg_size", "message_header", "matchEventIndicator", "totNumReports", "securityUpdateAction",
    "lastUpdateTime", "mDSecurityTradingStatus", "applID", "marketSegmentID", "underlyingProduct",
    "securityExchange", "securityGroup", "asset", "symbol", "securityID", "securityType", "cFICode",
    "maturityMonthYear", "currency", "securitySubType", "userDefinedInstrument", "matchAlgorithm",
    "minTradeVol", "maxTradeVol", "minPriceIncrement", "displayFactor", "priceDisplayFormat",
    "priceRatio", "tickRule", "unitOfMeasure", "tradingReferencePrice", "settlPriceType",
    "openInterestQty", "clearedVolume", "highLimitPrice", "lowLimitPrice", "maxPriceVariation",
    "mainFraction", "subFraction", "tradingReferenceDate", "noEvents", "noMDFeedTypes",
    "noInstAttrib", "noLotTypeRules", "noLegs"]

def securityStatus30 : Message where
  name := "SecurityStatus30"
  typeId := 30
  members := [
    ("msg_size", uint16), ("message_header", messageHeader.layout), ("transactTime", uint64),
    ("securityGroup", securityGroup), ("asset", asset), ("securityID", optional .int32 2147483647),
    ("tradeDate", optional .uint16 65535), ("matchEventIndicator", matchEventIndicator),
    ("securityTradingStatus", securityTradingStatus.optional), ("haltReason", haltReason),
    ("securityTradingEvent", securityTradingEvent)]
  table := [
    "msg_size", "message_header", "transactTime", "securityGroup", "asset", "securityID",
    "tradeDate", "matchEventIndicator", "securityTradingStatus", "haltReason",
    "securityTradingEvent"]

def mdIncrementalRefreshBook32.noMDEntries : Struct where
  members := [
    ("mDEntryPx", pricenull.layout), ("mDEntrySize", optional .int32 2147483647),
    ("securityID", int32), ("rptSeq", uint32), ("numberOfOrders", optional .int32 2147483647),
    ("mDPriceLevel", uint8), ("mDUpdateAction", mdUpdateAction), ("mDEntryType", mdEntryTypeBook),
    ("padding", padding 5)]
  table := [
    "mDEntryPx", "mDEntrySize", "securityID", "rptSeq", "numberOfOrders", "mDPriceLevel",
    "mDUpdateAction", "mDEntryType", "padding"]

def mdIncrementalRefreshBook32.noOrderIDEntries : Struct where
  members := [
    ("orderID", uint64), ("mDOrderPriority", optional .uint64 18446744073709551615),
    ("mDDisplayQty", optional .int32 2147483647), ("referenceID", optional .uint8 255),
    ("orderUpdateAction", orderUpdateAction), ("padding", padding 2)]
  table := [
    "orderID", "mDOrderPriority", "mDDisplayQty", "referenceID", "orderUpdateAction", "padding"]

def mdIncrementalRefreshBook32 : Message where
  name := "MDIncrementalRefreshBook32"
  typeId := 32
  members := [
    ("msg_size", uint16), ("message_header", messageHeader.layout), ("transactTime", uint64),
    ("matchEventIndicator", matchEventIndicator), ("block_padding", padding 2)]
  groups := [
    ⟨"noMDEntries", mdIncrementalRefreshBook32.noMDEntries, groupSize⟩,
    ⟨"noOrderIDEntries", mdIncrementalRefreshBook32.noOrderIDEntries, groupSize8Byte⟩]
  table := [
    "msg_size", "message_header", "transactTime", "matchEventIndicator", "block_padding",
    "noMDEntries", "noOrderIDEntries"]

def mdIncrementalRefreshDailyStatistics33.noMDEntries : Struct where
  members := [
    ("mDEntryPx", pricenull.layout), ("mDEntrySize", optional .int32 2147483647),
    ("securityID", int32), ("rptSeq", uint32), ("tradingReferenceDate", optional .uint16 65535),
    ("settlPriceType", settlPriceType), ("mDUpdateAction", mdUpdateAction),
    ("mDEntryType", mdEntryTypeDailyStatistics), ("padding", padding 7)]
  table := [
    "mDEntryPx", "mDEntrySize", "securityID", "rptSeq", "tradingReferenceDate", "settlPriceType",
    "mDUpdateAction", "mDEntryType", "padding"]

def mdIncrementalRefreshDailyStatistics33 : Message where
  name := "MDIncrementalRefreshDailyStatistics33"
  typeId := 33
  members := [
    ("msg_size", uint16), ("message_header", messageHeader.layout), ("transactTime", uint64),
    ("matchEventIndicator", matchEventIndicator), ("block_padding", padding 2)]
  groups := [⟨"noMDEntries", mdIncrementalRefreshDailyStatistics33.noMDEntries, groupSize⟩]
  table := [
    "msg_size", "message_header", "transactTime", "matchEventIndicator", "block_padding",
    "noMDEntries"]

def mdIncrementalRefreshLimitsBanding34.noMDEntries : Struct where
  members := [
    ("highLimitPrice", pricenull.layout), ("lowLimitPrice", pricenull.layout),
    ("maxPriceVariation", pricenull.layout), ("securityID", int32), ("rptSeq", uint32)]
  table := ["highLimitPrice", "lowLimitPrice", "maxPriceVariation", "securityID", "rptSeq"]

def mdIncrementalRefreshLimitsBanding34 : Message where
  name := "MDIncrementalRefreshLimitsBanding34"
  typeId := 34
  members := [
    ("msg_size", uint16), ("message_header", messageHeader.layout), ("transactTime", uint64),
    ("matchEventIndicator", matchEventIndicator), ("block_padding", padding 2)]
  groups := [⟨"noMDEntries", mdIncrementalRefreshLimitsBanding34.noMDEntries, groupSize⟩]
  table := [
    "msg_size", "message_header", "transactTime", "matchEventIndicator", "block_padding",
    "noMDEntries"]

def mdIncrementalRefreshSessionStatistics35.noMDEntries : Struct where
  members := [
    ("mDEntryPx", price.layout), ("securityID", int32), ("rptSeq", uint32),
    ("openCloseSettlFlag", openCloseSettlFlag.optional), ("mDUpdateAction", mdUpdateAction),
    ("mDEntryType", mdEntryTypeStatistics), ("mDEntrySize", optional .int32 2147483647),
    ("padding", padding 1)]
  table := [
    "mDEntryPx", "securityID", "rptSeq", "openCloseSettlFlag", "mDUpdateAction", "mDEntryType",
    "mDEntrySize", "padding"]

def mdIncrementalRefreshSessionStatistics35 : Message where
  name := "MDIncrementalRefreshSessionStatistics35"
  typeId := 35
  members := [
    ("msg_size", uint16), ("message_header", messageHeader.layout), ("transactTime", uint64),
    ("matchEventIndicator", matchEventIndicator), ("block_padding", padding 2)]
  groups := [⟨"noMDEntries", mdIncrementalRefreshSessionStatistics35.noMDEntries, groupSize⟩]
  table := [
    "msg_size", "message_header", "transactTime", "matchEventIndicator", "block_padding",
    "noMDEntries"]

def mdIncrementalRefreshVolume37.noMDEntries : Struct where
  members := [
    ("mDEntrySize", int32), ("securityID", int32), ("rptSeq", uint32),
    ("mDUpdateAction", mdUpdateAction), ("padding", padding 3)]
  table := ["mDEntrySize", "securityID", "rptSeq", "mDUpdateAction", "padding"]

def mdIncrementalRefreshVolume37 : Message where
  name := "MDIncrementalRefreshVolume37"
  typeId := 37
  members := [
    ("msg_size", uint16), ("message_header", messageHeader.layout), ("transactTime", uint64),
    ("matchEventIndicator", matchEventIndicator), ("block_padding", padding 2)]
  groups := [⟨"noMDEntries", mdIncrementalRefreshVolume37.noMDEntries, groupSize⟩]
  table := [
    "msg_size", "message_header", "transactTime", "matchEventIndicator", "block_padding",
    "noMDEntries"]

def snapshotFullRefresh38.noMDEntries : Struct where
  members := [
    ("mDEntryPx", pricenull.layout), ("mDEntrySize", optional .int32 2147483647),
    ("numberOfOrders", optional .int32 2147483647), ("mDPriceLevel", optional .int8 127),
    ("tradingReferenceDate", optional .uint16 65535),
    ("openCloseSettlFlag", openCloseSettlFlag.optional), ("settlPriceType", settlPriceType),
    ("mDEntryType", mdEntryType)]
  table := [
    "mDEntryPx", "mDEntrySize", "numberOfOrders", "mDPriceLevel", "tradingReferenceDate",
    "openCloseSettlFlag", "settlPriceType", "mDEntryType"]

def snapshotFullRefresh38 : Message where
  name := "SnapshotFullRefresh38"
  typeId := 38
  members := [
    ("msg_size", uint16), ("message_header", messageHeader.layout),
    ("lastMsgSeqNumProcessed", uint32), ("totNumReports", uint32), ("securityID", int32),
    ("rptSeq", uint32), ("transactTime", uint64), ("lastUpdateTime", uint64),
    ("tradeDate", optional .uint16 65535),
    ("mDSecurityTradingStatus", securityTradingStatus.optional),
    ("highLimitPrice", pricenull.layout), ("lowLimitPrice", pricenull.layout),
    ("maxPriceVariation", pricenull.layout)]
  groups := [⟨"noMDEntries", snapshotFullRefresh38.noMDEntries, groupSize⟩]
  table := [
    "msg_size", "message_header", "lastMsgSeqNumProcessed", "totNumReports", "securityID", "rptSeq",
    "transactTime", "lastUpdateTime", "tradeDate", "mDSecurityTradingStatus", "highLimitPrice",
    "lowLimitPrice", "maxPriceVariation", "noMDEntries"]

def quoteRequest39.noRelatedSym : Struct where
  members := [
    ("symbol", symbol), ("securityID", int32), ("orderQty", optional .int32 2147483647),
    ("quoteType", int8), ("side", optional .int8 127), ("padding", padding 2)]
  table := ["symbol", "securityID", "orderQty", "quoteType", "side", "padding"]

def quoteRequest39 : Message where
  name := "QuoteRequest39"
  typeId := 39
  members := [
    ("msg_size", uint16), ("message_header", messageHeader.layout), ("transactTime", uint64),
    ("quoteReqID", quoteReqId), ("matchEventIndicator", matchEventIndicator),
    ("block_padding", padding 3)]
  groups := [⟨"noRelatedSym", quoteRequest39.noRelatedSym, groupSize⟩]
  table := [
    "msg_size", "message_header", "transactTime", "quoteReqID", "matchEventIndicator",
    "block_padding", "noRelatedSym"]

def mdInstrumentDefinitionOption41.noEvents : Struct where
  members := [("eventType", eventType), ("eventTime", uint64)]
  table := ["eventType", "eventTime"]

def mdInstrumentDefinitionOption41.noMDFeedTypes : Struct where
  members := [("mDFeedType", mdFeedType), ("marketDepth", int8)]
  table := ["mDFeedType", "marketDepth"]

def mdInstrumentDefinitionOption41.noInstAttrib : Struct where
  members := [("instAttribValue", instAttribValue)]
  table := ["instAttribValue"]

def mdInstrumentDefinitionOption41.noLotTypeRules : Struct where
  members := [("lotType", int8), ("minLotSize", decimalQty.layout)]
  table := ["lotType", "minLotSize"]

def mdInstrumentDefinitionOption41.noUnderlyings : Struct where
  members := [("underlyingSecurityID", int32), ("underlyingSymbol", underlyingSymbol)]
  table := ["underlyingSecurityID", "underlyingSymbol"]

def mdInstrumentDefinitionOption41.noRelatedInstruments : Struct where
  members := [("relatedSecurityID", int32), ("relatedSymbol", symbol)]
  table := ["relatedSecurityID", "relatedSymbol"]

def mdInstrumentDefinitionOption41 : Message where
  name := "MDInstrumentDefinitionOption41"
  typeId := 41
  members := [
    ("msg_size", uint16), ("message_header", messageHeader.layout),
    ("matchEventIndicator", matchEventIndicator), ("totNumReports", optional .uint32 4294967295),
    ("securityUpdateAction", securityUpdateAction), ("lastUpdateTime", uint64),
    ("mDSecurityTradingStatus", securityTradingStatus.optional), ("applID", int16),
    ("marketSegmentID", uint8), ("underlyingProduct", uint8),
    ("securityExchange", securityExchange), ("securityGroup", securityGroup), ("asset", asset),
    ("symbol", symbol), ("securityID", int32), ("securityType", securityType), ("cFICode", cfiCode),
    ("putOrCall", putOrCall), ("maturityMonthYear", maturityMonthYear.layout),
    ("currency", currency), ("strikePrice", pricenull.layout), ("strikeCurrency", currency),
    ("settlCurrency", currency), ("minCabPrice", pricenull.layout), ("matchAlgorithm", char),
    ("minTradeVol", uint32), ("maxTradeVol", uint32), ("minPriceIncrement", pricenull.layout),
    ("minPriceIncrementAmount", pricenull.layout), ("displayFactor", float.layout),
    ("tickRule", optional .int8 127), ("mainFraction", optional .uint8 255),
    ("subFraction", optional .uint8 255), ("priceDisplayFormat", optional .uint8 255),
    ("unitOfMeasure", unitOfMeasure), ("unitOfMeasureQty", pricenull.layout),
    ("tradingReferencePrice", pricenull.layout), ("settlPriceType", settlPriceType),
    ("clearedVolume", optional .int32 2147483647), ("openInterestQty", optional .int32 2147483647),
    ("lowLimitPrice", pricenull.layout), ("highLimitPrice", pricenull.layout),
    ("userDefinedInstrument", userDefinedInstrument),
    ("tradingReferenceDate", optional .uint16 65535)]
  groups := [
    ⟨"noEvents", mdInstrumentDefinitionOption41.noEvents, groupSize⟩,
    ⟨"noMDFeedTypes", mdInstrumentDefinitionOption41.noMDFeedTypes, groupSize⟩,
    ⟨"noInstAttrib", mdInstrumentDefinitionOption41.noInstAttrib, groupSize⟩,
    ⟨"noLotTypeRules", mdInstrumentDefinitionOption41.noLotTypeRules, groupSize⟩,
    ⟨"noUnderlyings", mdInstrumentDefinitionOption41.noUnderlyings, groupSize⟩,
    ⟨"noRelatedInstruments", mdInstrumentDefinitionOption41.noRelatedInstruments, groupSize⟩]
  table := [
    "msg_size", "message_header", "matchEventIndicator", "totNumReports", "securityUpdateAction",
    "lastUpdateTime", "mDSecurityTradingStatus", "applID", "marketSegmentID", "underlyingProduct",
    "securityExchange", "securityGroup", "asset", "symbol", "securityID", "securityType", "cFICode",
    "putOrCall", "maturityMonthYear", "currency", "strikePrice", "strikeCurrency", "settlCurrency",
    "minCabPrice", "matchAlgorithm", "minTradeVol", "maxTradeVol", "minPriceIncrement",
    "minPriceIncrementAmount", "displayFactor", "tickRule", "mainFraction", "subFraction",
    "priceDisplayFormat", "unitOfMeasure", "unitOfMeasureQty", "tradingReferencePrice",
    "settlPriceType", "clearedVolume", "openInterestQty", "lowLimitPrice", "highLimitPrice",
    "userDefinedInstrument", "tradingReferenceDate", "noEvents", "noMDFeedTypes", "noInstAttrib",
    "noLotTypeRules", "noUnderlyings", "noRelatedInstruments"]

def mdIncrementalRefreshTradeSummary42.noMDEntries : Struct where
  members := [
    ("mDEntryPx", price.layout), ("mDEntrySize", int32), ("securityID", int32), ("rptSeq", uint32),
    ("numberOfOrders", optional .int32 2147483647), ("aggressorSide", aggressorSide.optional),
    ("mDUpdateAction", mdUpdateAction), ("mDTradeEntryID", optional .uint32 4294967295),
    ("padding", padding 2)]
  table := [
    "mDEntryPx", "mDEntrySize", "securityID", "rptSeq", "numberOfOrders", "aggressorSide",
    "mDUpdateAction", "mDTradeEntryID", "padding"]

def mdIncrementalRefreshTradeSummary42.noOrderIDEntries : Struct where
  members := [("orderID", uint64), ("lastQty", int32), ("padding", padding 4)]
  table := ["orderID", "lastQty", "padding"]

def mdIncrementalRefreshTradeSummary42 : Message where
  name := "MDIncrementalRefreshTradeSummary42"
  typeId := 42
  members := [
    ("msg_size", uint16), ("message_header", messageHeader.layout), ("transactTime", uint64),
    ("matchEventIndicator", matchEventIndicator), ("block_padding", padding 2)]
  groups := [
    ⟨"noMDEntries", mdIncrementalRefreshTradeSummary42.noMDEntries, groupSize⟩,
    ⟨"noOrderIDEntries", mdIncrementalRefreshTradeSummary42.noOrderIDEntries, groupSize8Byte⟩]
  table := [
    "msg_size", "message_header", "transactTime", "matchEventIndicator", "block_padding",
    "noMDEntries", "noOrderIDEntries"]

def mdIncrementalRefreshOrderBook43.noMDEntries : Struct where
  members := [
    ("orderID", optional .uint64 18446744073709551615),
    ("mDOrderPriority", optional .uint64 18446744073709551615), ("mDEntryPx", pricenull.layout),
    ("mDDisplayQty", optional .int32 2147483647), ("securityID", int32),
    ("mDUpdateAction", mdUpdateAction), ("mDEntryType", mdEntryTypeBook), ("padding", padding 6)]
  table := [
    "orderID", "mDOrderPriority", "mDEntryPx", "mDDisplayQty", "securityID", "mDUpdateAction",
    "mDEntryType", "padding"]

def mdIncrementalRefreshOrderBook43 : Message where
  name := "MDIncrementalRefreshOrderBook43"
  typeId := 43
  members := [
    ("msg_size", uint16), ("message_header", messageHeader.layout), ("transactTime", uint64),
    ("matchEventIndicator", matchEventIndicator), ("block_padding", padding 2)]
  groups := [⟨"noMDEntries", mdIncrementalRefreshOrderBook43.noMDEntries, groupSize⟩]
  table := [
    "msg_size", "message_header", "transactTime", "matchEventIndicator", "block_padding",
    "noMDEntries"]

def snapshotFullRefreshOrderBook44.noMDEntries : Struct where
  members := [
    ("orderID", uint64), ("mDOrderPriority", optional .uint64 18446744073709551615),
    ("mDEntryPx", price.layout), ("mDDisplayQty", int32), ("mDEntryType", mdEntryTypeBook)]
  table := ["orderID", "mDOrderPriority", "mDEntryPx", "mDDisplayQty", "mDEntryType"]

def snapshotFullRefreshOrderBook44 : Message where
  name := "SnapshotFullRefreshOrderBook44"
  typeId := 44
  members := [
    ("msg_size", uint16), ("message_header", messageHeader.layout),
    ("lastMsgSeqNumProcessed", uint32), ("totNumReports", uint32), ("securityID", int32),
    ("noChunks", uint32), ("currentChunk", uint32), ("transactTime", uint64)]
  groups := [⟨"noMDEntries", snapshotFullRefreshOrderBook44.noMDEntries, groupSize⟩]
  table := [
    "msg_size", "message_header", "lastMsgSeqNumProcessed", "totNumReports", "securityID",
    "noChunks", "currentChunk", "transactTime", "noMDEntries"]

def mdIncrementalRefreshBook46.noMDEntries : Struct where
  members := [
    ("mDEntryPx", pricenull9.layout), ("mDEntrySize", optional .int32 2147483647),
    ("securityID", int32), ("rptSeq", uint32), ("numberOfOrders", optional .int32 2147483647),
    ("mDPriceLevel", uint8), ("mDUpdateAction", mdUpdateAction), ("mDEntryType", mdEntryTypeBook),
    ("padding", padding 5)]
  table := [
    "mDEntryPx", "mDEntrySize", "securityID", "rptSeq", "numberOfOrders", "mDPriceLevel",
    "mDUpdateAction", "mDEntryType", "padding"]

def mdIncrementalRefreshBook46.noOrderIDEntries : Struct where
  members := [
    ("orderID", uint64), ("mDOrderPriority", optional .uint64 18446744073709551615),
    ("mDDisplayQty", optional .int32 2147483647), ("referenceID", optional .uint8 255),
    ("orderUpdateAction", orderUpdateAction), ("padding", padding 2)]
  table := [
    "orderID", "mDOrderPriority", "mDDisplayQty", "referenceID", "orderUpdateAction", "padding"]

def mdIncrementalRefreshBook46 : Message where
  name := "MDIncrementalRefreshBook46"
  typeId := 46
  members := [
    ("msg_size", uint16), ("message_header", messageHeader.layout), ("transactTime", uint64),
    ("matchEventIndicator", matchEventIndicator), ("block_padding", padding 2)]
  groups := [
    ⟨"noMDEntries", mdIncrementalRefreshBook46.noMDEntries, groupSize⟩,
    ⟨"noOrderIDEntries", mdIncrementalRefreshBook46.noOrderIDEntries, groupSize8Byte⟩]
  table := [
    "msg_size", "message_header", "transactTime", "matchEventIndicator", "block_padding",
    "noMDEntries", "noOrderIDEntries"]

def mdIncrementalRefreshOrderBook47.noMDEntries : Struct where
  members := [
    ("orderID", optional .uint64 18446744073709551615),
    ("mDOrderPriority", optional .uint64 18446744073709551615), ("mDEntryPx", pricenull9.layout),
    ("mDDisplayQty", optional .int32 2147483647), ("securityID", int32),
    ("mDUpdateAction", mdUpdateAction), ("mDEntryType", mdEntryTypeBook), ("padding", padding 6)]
  table := [
    "orderID", "mDOrderPriority", "mDEntryPx", "mDDisplayQty", "securityID", "mDUpdateAction",
    "mDEntryType", "padding"]

def mdIncrementalRefreshOrderBook47 : Message where
  name := "MDIncrementalRefreshOrderBook47"
  typeId := 47
  members := [
    ("msg_size", uint16), ("message_header", messageHeader.layout), ("transactTime", uint64),
    ("matchEventIndicator", matchEventIndicator), ("block_padding", padding 2)]
  groups := [⟨"noMDEntries", mdIncrementalRefreshOrderBook47.noMDEntries, groupSize⟩]
  table := [
    "msg_size", "message_header", "transactTime", "matchEventIndicator", "block_padding",
    "noMDEntries"]

def mdIncrementalRefreshTradeSummary48.noMDEntries : Struct where
  members := [
    ("mDEntryPx", price9.layout), ("mDEntrySize", int32), ("securityID", int32), ("rptSeq", uint32),
    ("numberOfOrders", int32), ("aggressorSide", aggressorSide.optional),
    ("mDUpdateAction", mdUpdateAction), ("mDTradeEntryID", optional .uint32 4294967295),
    ("padding", padding 2)]
  table := [
    "mDEntryPx", "mDEntrySize", "securityID", "rptSeq", "numberOfOrders", "aggressorSide",
    "mDUpdateAction", "mDTradeEntryID", "padding"]

def mdIncrementalRefreshTradeSummary48.noOrderIDEntries : Struct where
  members := [("orderID", uint64), ("lastQty", int32), ("padding", padding 4)]
  table := ["orderID", "lastQty", "padding"]

def mdIncrementalRefreshTradeSummary48 : Message where
  name := "MDIncrementalRefreshTradeSummary48"
  typeId := 48
  members := [
    ("msg_size", uint16), ("message_header", messageHeader.layout), ("transactTime", uint64),
    ("matchEventIndicator", matchEventIndicator), ("block_padding", padding 2)]
  groups := [
    ⟨"noMDEntries", mdIncrementalRefreshTradeSummary48.noMDEntries, groupSize⟩,
    ⟨"noOrderIDEntries", mdIncrementalRefreshTradeSummary48.noOrderIDEntries, groupSize8Byte⟩]
  table := [
    "msg_size", "message_header", "transactTime", "matchEventIndicator", "block_padding",
    "noMDEntries", "noOrderIDEntries"]

def mdIncrementalRefreshDailyStatistics49.noMDEntries : Struct where
  members := [
    ("mDEntryPx", pricenull9.layout), ("mDEntrySize", optional .int32 2147483647),
    ("securityID", int32), ("rptSeq", uint32), ("tradingReferenceDate", optional .uint16 65535),
    ("settlPriceType", settlPriceType), ("mDUpdateAction", mdUpdateAction),
    ("mDEntryType", mdEntryTypeDailyStatistics), ("padding", padding 7)]
  table := [
    "mDEntryPx", "mDEntrySize", "securityID", "rptSeq", "tradingReferenceDate", "settlPriceType",
    "mDUpdateAction", "mDEntryType", "padding"]

def mdIncrementalRefreshDailyStatistics49 : Message where
  name := "MDIncrementalRefreshDailyStatistics49"
  typeId := 49
  members := [
    ("msg_size", uint16), ("message_header", messageHeader.layout), ("transactTime", uint64),
    ("matchEventIndicator", matchEventIndicator), ("block_padding", padding 2)]
  groups := [⟨"noMDEntries", mdIncrementalRefreshDailyStatistics49.noMDEntries, groupSize⟩]
  table := [
    "msg_size", "message_header", "transactTime", "matchEventIndicator", "block_padding",
    "noMDEntries"]

def mdIncrementalRefreshLimitsBanding50.noMDEntries : Struct where
  members := [
    ("highLimitPrice", pricenull9.layout), ("lowLimitPrice", pricenull9.layout),
    ("maxPriceVariation", pricenull9.layout), ("securityID", int32), ("rptSeq", uint32)]
  table := ["highLimitPrice", "lowLimitPrice", "maxPriceVariation", "securityID", "rptSeq"]

def mdIncrementalRefreshLimitsBanding50 : Message where
  name := "MDIncrementalRefreshLimitsBanding50"
  typeId := 50
  members := [
    ("msg_size", uint16), ("message_header", messageHeader.layout), ("transactTime", uint64),
    ("matchEventIndicator", matchEventIndicator), ("block_padding", padding 2)]
  groups := [⟨"noMDEntries", mdIncrementalRefreshLimitsBanding50.noMDEntries, groupSize⟩]
  table := [
    "msg_size", "message_header", "transactTime", "matchEventIndicator", "block_padding",
    "noMDEntries"]

def mdIncrementalRefreshSessionStatistics51.noMDEntries : Struct where
  members := [
    ("mDEntryPx", price9.layout), ("securityID", int32), ("rptSeq", uint32),
    ("openCloseSettlFlag", openCloseSettlFlag.optional), ("mDUpdateAction", mdUpdateAction),
    ("mDEntryType", mdEntryTypeStatistics), ("mDEntrySize", optional .int32 2147483647),
    ("padding", padding 1)]
  table := [
    "mDEntryPx", "securityID", "rptSeq", "openCloseSettlFlag", "mDUpdateAction", "mDEntryType",
    "mDEntrySize", "padding"]

def mdIncrementalRefreshSessionStatistics51 : Message where
  name := "MDIncrementalRefreshSessionStatistics51"
  typeId := 51
  members := [
    ("msg_size", uint16), ("message_header", messageHeader.layout), ("transactTime", uint64),
    ("matchEventIndicator", matchEventIndicator), ("block_padding", padding 2)]
  groups := [⟨"noMDEntries", mdIncrementalRefreshSessionStatistics51.noMDEntries, groupSize⟩]
  table := [
    "msg_size", "message_header", "transactTime", "matchEventIndicator", "block_padding",
    "noMDEntries"]

def snapshotFullRefresh52.noMDEntries : Struct where
  members := [
    ("mDEntryPx", pricenull9.layout), ("mDEntrySize", optional .int32 2147483647),
    ("numberOfOrders", optional .int32 2147483647), ("mDPriceLevel", optional .int8 127),
    ("tradingReferenceDate", optional .uint16 65535),
    ("openCloseSettlFlag", openCloseSettlFlag.optional), ("settlPriceType", settlPriceType),
    ("mDEntryType", mdEntryType)]
  table := [
    "mDEntryPx", "mDEntrySize", "numberOfOrders", "mDPriceLevel", "tradingReferenceDate",
    "openCloseSettlFlag", "settlPriceType", "mDEntryType"]

def snapshotFullRefresh52 : Message where
  name := "SnapshotFullRefresh52"
  typeId := 52
  members := [
    ("msg_size", uint16), ("message_header", messageHeader.layout),
    ("lastMsgSeqNumProcessed", uint32), ("totNumReports", uint32), ("securityID", int32),
    ("rptSeq", uint32), ("transactTime", uint64), ("lastUpdateTime", uint64),
    ("tradeDate", optional .uint16 65535),
    ("mDSecurityTradingStatus", securityTradingStatus.optional),
    ("highLimitPrice", pricenull9.layout), ("lowLimitPrice", pricenull9.layout),
    ("maxPriceVariation", pricenull9.layout)]
  groups := [⟨"noMDEntries", snapshotFullRefresh52.noMDEntries, groupSize⟩]
  table := [
    "msg_size", "message_header", "lastMsgSeqNumProcessed", "totNumReports", "securityID", "rptSeq",
    "transactTime", "lastUpdateTime", "tradeDate", "mDSecurityTradingStatus", "highLimitPrice",
    "lowLimitPrice", "maxPriceVariation", "noMDEntries"]

def snapshotFullRefreshOrderBook53.noMDEntries : Struct where
  members := [
    ("orderID", uint64), ("mDOrderPriority", optional .uint64 18446744073709551615),
    ("mDEntryPx", price9.layout), ("mDDisplayQty", int32), ("mDEntryType", mdEntryTypeBook)]
  table := ["orderID", "mDOrderPriority", "mDEntryPx", "mDDisplayQty", "mDEntryType"]

def snapshotFullRefreshOrderBook53 : Message where
  name := "SnapshotFullRefreshOrderBook53"
  typeId := 53
  members := [
    ("msg_size", uint16), ("message_header", messageHeader.layout),
    ("lastMsgSeqNumProcessed", uint32), ("totNumReports", uint32), ("securityID", int32),
    ("noChunks", uint32), ("currentChunk", uint32), ("transactTime", uint64)]
  groups := [⟨"noMDEntries", snapshotFullRefreshOrderBook53.noMDEntries, groupSize⟩]
  table := [
    "msg_size", "message_header", "lastMsgSeqNumProcessed", "totNumReports", "securityID",
    "noChunks", "currentChunk", "transactTime", "noMDEntries"]

def mdInstrumentDefinitionFuture54.noEvents : Struct where
  members := [("eventType", eventType), ("eventTime", uint64)]
  table := ["eventType", "eventTime"]

def mdInstrumentDefinitionFuture54.noMDFeedTypes : Struct where
  members := [("mDFeedType", mdFeedType), ("marketDepth", int8)]
  table := ["mDFeedType", "marketDepth"]

def mdInstrumentDefinitionFuture54.noInstAttrib : Struct where
  members := [("instAttribValue", instAttribValue)]
  table := ["instAttribValue"]

def mdInstrumentDefinitionFuture54.noLotTypeRules : Struct where
  members := [("lotType", int8), ("minLotSize", decimalQty.layout)]
  table := ["lotType", "minLotSize"]

def mdInstrumentDefinitionFuture54 : Message where
  name := "MDInstrumentDefinitionFuture54"
  typeId := 54
  members := [
    ("msg_size", uint16), ("message_header", messageHeader.layout),
    ("matchEventIndicator", matchEventIndicator), ("totNumReports", optional .uint32 4294967295),
    ("securityUpdateAction", securityUpdateAction), ("lastUpdateTime", uint64),
    ("mDSecurityTradingStatus", securityTradingStatus.optional), ("applID", int16),
    ("marketSegmentID", uint8), ("underlyingProduct", uint8),
    ("securityExchange", securityExchange), ("securityGroup", securityGroup), ("asset", asset),
    ("symbol", symbol), ("securityID", int32), ("securityType", securityType), ("cFICode", cfiCode),
    ("maturityMonthYear", maturityMonthYear.layout), ("currency", currency),
    ("settlCurrency", currency), ("matchAlgorithm", char), ("minTradeVol", uint32),
    ("maxTradeVol", uint32), ("minPriceIncrement", price9.layout),
    ("displayFactor", decimal9.layout), ("mainFraction", optional .uint8 255),
    ("subFraction", optional .uint8 255), ("priceDisplayFormat", optional .uint8 255),
    ("unitOfMeasure", unitOfMeasure), ("unitOfMeasureQty", decimal9NULL.layout),
    ("tradingReferencePrice", pricenull9.layout), ("settlPriceType", settlPriceType),
    ("openInterestQty", optional .int32 2147483647), ("clearedVolume", optional .int32 2147483647),
    ("highLimitPrice", pricenull9.layout), ("lowLimitPrice", pricenull9.layout),
    ("maxPriceVariation", pricenull9.layout), ("decayQuantity", optional .int32 2147483647),
    ("decayStartDate", optional .uint16 65535),
    ("originalContractSize", optional .int32 2147483647),
    ("contractMultiplier", optional .int32 2147483647),
    ("contractMultiplierUnit", optional .int8 127), ("flowScheduleType", optional .int8 127),
    ("minPriceIncrementAmount", pricenull9.layout),
    ("userDefinedInstrument", userDefinedInstrument),
    ("tradingReferenceDate", optional .uint16 65535)]
  groups := [
    ⟨"noEvents", mdInstrumentDefinitionFuture54.noEvents, groupSize⟩,
    ⟨"noMDFeedTypes", mdInstrumentDefinitionFuture54.noMDFeedTypes, groupSize⟩,
    ⟨"noInstAttrib", mdInstrumentDefinitionFuture54.noInstAttrib, groupSize⟩,
    ⟨"noLotTypeRules", mdInstrumentDefinitionFuture54.noLotTypeRules, groupSize⟩]
  table := [
    "msg_size", "message_header", "matchEventIndicator", "totNumReports", "securityUpdateAction",
    "lastUpdateTime", "mDSecurityTradingStatus", "applID", "marketSegmentID", "underlyingProduct",
    "securityExchange", "securityGroup", "asset", "symbol", "securityID", "securityType", "cFICode",
    "maturityMonthYear", "currency", "settlCurrency", "matchAlgorithm", "minTradeVol",
    "maxTradeVol", "minPriceIncrement", "displayFactor", "mainFraction", "subFraction",
    "priceDisplayFormat", "unitOfMeasure", "unitOfMeasureQty", "tradingReferencePrice",
    "settlPriceType", "openInterestQty", "clearedVolume", "highLimitPrice", "lowLimitPrice",
    "maxPriceVariation", "decayQuantity", "decayStartDate", "originalContractSize",
    "contractMultiplier", "contractMultiplierUnit", "flowScheduleType", "minPriceIncrementAmount",
    "userDefinedInstrument", "tradingReferenceDate", "noEvents", "noMDFeedTypes", "noInstAttrib",
    "noLotTypeRules"]

def mdInstrumentDefinitionOption55.noEvents : Struct where
  members := [("eventType", eventType), ("eventTime", uint64)]
  table := ["eventType", "eventTime"]

def mdInstrumentDefinitionOption55.noMDFeedTypes : Struct where
  members := [("mDFeedType", mdFeedType), ("marketDepth", int8)]
  table := ["mDFeedType", "marketDepth"]

def mdInstrumentDefinitionOption55.noInstAttrib : Struct where
  members := [("instAttribValue", instAttribValue)]
  table := ["instAttribValue"]

def mdInstrumentDefinitionOption55.noLotTypeRules : Struct where
  members := [("lotType", int8), ("minLotSize", decimalQty.layout)]
  table := ["lotType", "minLotSize"]

def mdInstrumentDefinitionOption55.noUnderlyings : Struct where
  members := [("underlyingSecurityID", int32), ("underlyingSymbol", underlyingSymbol)]
  table := ["underlyingSecurityID", "underlyingSymbol"]

def mdInstrumentDefinitionOption55.noRelatedInstruments : Struct where
  members := [("relatedSecurityID", int32), ("relatedSymbol", symbol)]
  table := ["relatedSecurityID", "relatedSymbol"]

def mdInstrumentDefinitionOption55 : Message where
  name := "MDInstrumentDefinitionOption55"
  typeId := 55
  members := [
    ("msg_size", uint16), ("message_header", messageHeader.layout),
    ("matchEventIndicator", matchEventIndicator), ("totNumReports", optional .uint32 4294967295),
    ("securityUpdateAction", securityUpdateAction), ("lastUpdateTime", uint64),
    ("mDSecurityTradingStatus", securityTradingStatus.optional), ("applID", int16),
    ("marketSegmentID", uint8), ("underlyingProduct", uint8),
    ("securityExchange", securityExchange), ("securityGroup", securityGroup), ("asset", asset),
    ("symbol", symbol), ("securityID", int32), ("securityType", securityType), ("cFICode", cfiCode),
    ("putOrCall", putOrCall), ("maturityMonthYear", maturityMonthYear.layout),
    ("currency", currency), ("strikePrice", pricenull9.layout), ("strikeCurrency", currency),
    ("settlCurrency", currency), ("minCabPrice", pricenull9.layout), ("matchAlgorithm", char),
    ("minTradeVol", uint32), ("maxTradeVol", uint32), ("minPriceIncrement", pricenull9.layout),
    ("minPriceIncrementAmount", pricenull9.layout), ("displayFactor", decimal9.layout),
    ("tickRule", optional .int8 127), ("mainFraction", optional .uint8 255),
    ("subFraction", optional .uint8 255), ("priceDisplayFormat", optional .uint8 255),
    ("unitOfMeasure", unitOfMeasure), ("unitOfMeasureQty", decimal9NULL.layout),
    ("tradingReferencePrice", pricenull9.layout), ("settlPriceType", settlPriceType),
    ("clearedVolume", optional .int32 2147483647), ("openInterestQty", optional .int32 2147483647),
    ("lowLimitPrice", pricenull9.layout), ("highLimitPrice", pricenull9.layout),
    ("userDefinedInstrument", userDefinedInstrument),
    ("tradingReferenceDate", optional .uint16 65535)]
  groups := [
    ⟨"noEvents", mdInstrumentDefinitionOption55.noEvents, groupSize⟩,
    ⟨"noMDFeedTypes", mdInstrumentDefinitionOption55.noMDFeedTypes, groupSize⟩,
    ⟨"noInstAttrib", mdInstrumentDefinitionOption55.noInstAttrib, groupSize⟩,
    ⟨"noLotTypeRules", mdInstrumentDefinitionOption55.noLotTypeRules, groupSize⟩,
    ⟨"noUnderlyings", mdInstrumentDefinitionOption55.noUnderlyings, groupSize⟩,
    ⟨"noRelatedInstruments", mdInstrumentDefinitionOption55.noRelatedInstruments, groupSize⟩]
  table := [
    "msg_size", "message_header", "matchEventIndicator", "totNumReports", "securityUpdateAction",
    "lastUpdateTime", "mDSecurityTradingStatus", "applID", "marketSegmentID", "underlyingProduct",
    "securityExchange", "securityGroup", "asset", "symbol", "securityID", "securityType", "cFICode",
    "putOrCall", "maturityMonthYear", "currency", "strikePrice", "strikeCurrency", "settlCurrency",
    "minCabPrice", "matchAlgorithm", "minTradeVol", "maxTradeVol", "minPriceIncrement",
    "minPriceIncrementAmount", "displayFactor", "tickRule", "mainFraction", "subFraction",
    "priceDisplayFormat", "unitOfMeasure", "unitOfMeasureQty", "tradingReferencePrice",
    "settlPriceType", "clearedVolume", "openInterestQty", "lowLimitPrice", "highLimitPrice",
    "userDefinedInstrument", "tradingReferenceDate", "noEvents", "noMDFeedTypes", "noInstAttrib",
    "noLotTypeRules", "noUnderlyings", "noRelatedInstruments"]

def mdInstrumentDefinitionSpread56.noEvents : Struct where
  members := [("eventType", eventType), ("eventTime", uint64)]
  table := ["eventType", "eventTime"]

def mdInstrumentDefinitionSpread56.noMDFeedTypes : Struct where
  members := [("mDFeedType", mdFeedType), ("marketDepth", int8)]
  table := ["mDFeedType", "marketDepth"]

def mdInstrumentDefinitionSpread56.noInstAttrib : Struct where
  members := [("instAttribValue", instAttribValue)]
  table := ["instAttribValue"]

def mdInstrumentDefinitionSpread56.noLotTypeRules : Struct where
  members := [("lotType", int8), ("minLotSize", decimalQty.layout)]
  table := ["lotType", "minLotSize"]

def mdInstrumentDefinitionSpread56.noLegs : Struct where
  members := [
    ("legSecurityID", int32), ("legSide", legSide), ("legRatioQty", int8),
    ("legPrice", pricenull9.layout), ("legOptionDelta", decimalQty.layout)]
  table := ["legSecurityID", "legSide", "legRatioQty", "legPrice", "legOptionDelta"]

def mdInstrumentDefinitionSpread56 : Message where
  name := "MDInstrumentDefinitionSpread56"
  typeId := 56
  members := [
    ("msg_size", uint16), ("message_header", messageHeader.layout),
    ("matchEventIndicator", matchEventIndicator), ("totNumReports", optional .uint32 4294967295),
    ("securityUpdateAction", securityUpdateAction), ("lastUpdateTime", uint64),
    ("mDSecurityTradingStatus", securityTradingStatus.optional), ("applID", int16),
    ("marketSegmentID", uint8), ("underlyingProduct", optional .uint8 255),
    ("securityExchange", securityExchange), ("securityGroup", securityGroup), ("asset", asset),
    ("symbol", symbol), ("securityID", int32), ("securityType", securityType), ("cFICode", cfiCode),
    ("maturityMonthYear", maturityMonthYear.layout), ("currency", currency),
    ("securitySubType", securitySubType), ("userDefinedInstrument", userDefinedInstrument),
    ("matchAlgorithm", char), ("minTradeVol", uint32), ("maxTradeVol", uint32),
    ("minPriceIncrement", pricenull9.layout), ("displayFactor", decimal9.layout),
    ("priceDisplayFormat", optional .uint8 255), ("priceRatio", pricenull9.layout),
    ("tickRule", optional .int8 127), ("unitOfMeasure", unitOfMeasure),
    ("tradingReferencePrice", pricenull9.layout), ("settlPriceType", settlPriceType),
    ("openInterestQty", optional .int32 2147483647), ("clearedVolume", optional .int32 2147483647),
    ("highLimitPrice", pricenull9.layout), ("lowLimitPrice", pricenull9.layout),
    ("maxPriceVariation", pricenull9.layout), ("mainFraction", optional .uint8 255),
    ("subFraction", optional .uint8 255), ("tradingReferenceDate", optional .uint16 65535)]
  groups := [
    ⟨"noEvents", mdInstrumentDefinitionSpread56.noEvents, groupSize⟩,
    ⟨"noMDFeedTypes", mdInstrumentDefinitionSpread56.noMDFeedTypes, groupSize⟩,
    ⟨"noInstAttrib", mdInstrumentDefinitionSpread56.noInstAttrib, groupSize⟩,
    ⟨"noLotTypeRules", mdInstrumentDefinitionSpread56.noLotTypeRules, groupSize⟩,
    ⟨"noLegs", mdInstrumentDefinitionSpread56.noLegs, groupSize⟩]
  table := [
    "msg_size", "message_header", "matchEventIndicator", "totNumReports", "securityUpdateAction",
    "lastUpdateTime", "mDSecurityTradingStatus", "applID", "marketSegmentID", "underlyingProduct",
    "securityExchange", "securityGroup", "asset", "symbol", "securityID", "securityType", "cFICode",
    "maturityMonthYear", "currency", "securitySubType", "userDefinedInstrument", "matchAlgorithm",
    "minTradeVol", "maxTradeVol", "minPriceIncrement", "displayFactor", "priceDisplayFormat",
    "priceRatio", "tickRule", "unitOfMeasure", "tradingReferencePrice", "settlPriceType",
    "openInterestQty", "clearedVolume", "highLimitPrice", "lowLimitPrice", "maxPriceVariation",
    "mainFraction", "subFraction", "tradingReferenceDate", "noEvents", "noMDFeedTypes",
    "noInstAttrib", "noLotTypeRules", "noLegs"]

/-- The members that the describe table of `extended_message_header` lists. -/
def extendedMessageHeader : MemberType :=
  described [("msg_size", uint16), ("blockLength", uint16), ("templateId", uint16)]

def messages : Variant where
  order := .little
  header := extendedMessageHeader
  idInHeader := ["templateId"]
  idOffset := 4
  idType := .uint16
  located := by decide
  alternatives := [
    adminHeartbeat12, adminLogin15, adminLogout16, mdInstrumentDefinitionFuture27,
    mdInstrumentDefinitionSpread29, securityStatus30, mdIncrementalRefreshBook32,
    mdIncrementalRefreshDailyStatistics33, mdIncrementalRefreshLimitsBanding34,
    mdIncrementalRefreshSessionStatistics35, mdIncrementalRefreshVolume37, snapshotFullRefresh38,
    quoteRequest39, channelReset4, mdInstrumentDefinitionOption41,
    mdIncrementalRefreshTradeSummary42, mdIncrementalRefreshOrderBook43,
    snapshotFullRefreshOrderBook44, mdIncrementalRefreshBook46, mdIncrementalRefreshOrderBook47,
    mdIncrementalRefreshTradeSummary48, mdIncrementalRefreshDailyStatistics49,
    mdIncrementalRefreshLimitsBanding50, mdIncrementalRefreshSessionStatistics51,
    snapshotFullRefresh52, snapshotFullRefreshOrderBook53, mdInstrumentDefinitionFuture54,
    mdInstrumentDefinitionOption55, mdInstrumentDefinitionSpread56]
  distinct := by decide
  idMember := ["message_header", "templateId"]
  carried := by decide +kernel

end MdPrsr.Cme.V9

namespace MdPrsr.Cme.V13
open Wire

def asset : MemberType := chars 6
def cfiCode : MemberType := chars 6
def countryCode : MemberType := chars 2
def currency : MemberType := chars 3
def longName : MemberType := chars 35
def mdFeedType : MemberType := chars 3
def quoteReqId : MemberType := chars 23
def securityExchange : MemberType := chars 4
def securityGroup : MemberType := chars 6
def securitySubType : MemberType := chars 5
def securityType : MemberType := chars 6
def string12 : MemberType := chars 12
def string20 : MemberType := chars 20
def string25 : MemberType := chars 25
def string3 : MemberType := chars 3
def string5 : MemberType := chars 5
def string6 : MemberType := chars 6
def string7 : MemberType := chars 7
def string8 : MemberType := chars 8
def symbol : MemberType := chars 20
def text : MemberType := chars 180
def underlyingSymbol : MemberType := chars 20
def unitOfMeasure : MemberType := chars 30
def userDefinedInstrument : MemberType := chars 1

def aggressorFlag : Enumeration := ⟨.uint8, 255⟩
def aggressorSide : Enumeration := ⟨.uint8, 255⟩
def eventType : MemberType := uint8
def haltReason : MemberType := uint8
def legSide : MemberType := uint8
def mdEntryType : MemberType := char
def mdEntryTypeBook : MemberType := char
def mdEntryTypeDailyStatistics : MemberType := char
def mdEntryTypeStatistics : MemberType := char
def mdUpdateAction : MemberType := uint8
def moneyOrPar : Enumeration := ⟨.uint8, 255⟩
def openCloseSettlFlag : Enumeration := ⟨.uint8, 255⟩
def orderUpdateAction : MemberType := uint8
def priceSource : Enumeration := ⟨.uint8, 255⟩
def putOrCall : MemberType := uint8
def repoSubType : MemberType := uint8
def securityAltIDSource : Enumeration := ⟨.uint8, 255⟩
def securityTradingEvent : MemberType := uint8
def securityTradingStatus : Enumeration := ⟨.uint8, 255⟩
def securityUpdateAction : MemberType := char
def side : MemberType := uint8
def workupTradingStatus : MemberType := uint8
def instAttribValue : MemberType := uint32
def matchEventIndicator : MemberType := uint8
def settlPriceType : MemberType := uint8

def decimal9 : Struct where
  members := [("mantissa", int64)]
  table := ["mantissa"]

def decimal9NULL : Struct where
  members := [("mantissa", optional .int64 9223372036854775807)]
  table := ["mantissa"]

def decimalQty : Struct where
  members := [("mantissa", optional .int32 2147483647)]
  table := ["mantissa"]

def maturityMonthYear : Struct where
  members := [
    ("year", optional .uint16 65535), ("month", optional .uint8 255), ("day", optional .uint8 255),
    ("week", optional .uint8 255)]
  table := ["year", "month", "day", "week"]

def price9 : Struct where
  members := [("mantissa", int64)]
  table := ["mantissa"]

def pricenull9 : Struct where
  members := [("mantissa", optional .int64 9223372036854775807)]
  table := ["mantissa"]

def messageHeader : Struct where
  members := [
    ("blockLength", uint16), ("templateId", uint16), ("schemaId", uint16), ("version", uint16)]
  table := ["blockLength", "templateId", "schemaId", "version"]

def groupSize : GroupSize where
  struct := {
    members := [("blockLength", uint16), ("numInGroup", uint8)]
    table := ["blockLength", "numInGroup"] }
  blockLength r := BitVec.toNat (w := 16) (Record.head r)
  numInGroup r := BitVec.toNat (w := 8) (Record.head (Record.tail r))
  countBits := 8
  sized n := .cons (0 : BitVec 16) (.cons (BitVec.ofNat 8 n) .nil)
  blockLength_sized _ := rfl
  numInGroup_sized n := BitVec.toNat_ofNat n 8
  untimed := by decide

def groupSize8Byte : GroupSize where
  struct := {
    members := [("blockLength", uint16), ("padding_1", padding 5), ("numInGroup", uint8)]
    table := ["blockLength", "padding_1", "numInGroup"] }
  blockLength r := BitVec.toNat (w := 16) (Record.head r)
  numInGroup r := BitVec.toNat (w := 8) (Record.head (Record.tail (Record.tail r)))
  countBits := 8
  sized n := .cons (0 : BitVec 16) (.cons () (.cons (BitVec.ofNat 8 n) .nil))
  blockLength_sized _ := rfl
  numInGroup_sized n := BitVec.toNat_ofNat n 8
  untimed := by decide

def groupSizeEncoding : GroupSize where
  struct := {
    members := [("blockLength", uint16), ("numInGroup", uint16)]
    table := ["blockLength", "numInGroup"] }
  blockLength r := BitVec.toNat (w := 16) (Record.head r)
  numInGroup r := BitVec.toNat (w := 16) (Record.head (Record.tail r))
  countBits := 16
  sized n := .cons (0 : BitVec 16) (.cons (BitVec.ofNat 16 n) .nil)
  blockLength_sized _ := rfl
  numInGroup_sized n := BitVec.toNat_ofNat n 16
  untimed := by decide

def channelReset4.noMDEntries : Struct where
  members := [("applID", int16)]
  table := ["applID"]

def channelReset4 : Message where
  name := "ChannelReset4"
  typeId := 4
  members := [
    ("msg_size", uint16), ("message_header", messageHeader.layout), ("transactTime", uint64),
    ("matchEventIndicator", matchEventIndicator)]
  groups := [⟨"noMDEntries", channelReset4.noMDEntries, groupSize⟩]
  table := ["msg_size", "message_header", "transactTime", "matchEventIndicator", "noMDEntries"]

def adminHeartbeat12 : Message where
  name := "AdminHeartbeat12"
  typeId := 12
  members := [("msg_size", uint16), ("message_header", messageHeader.layout)]
  table := ["msg_size", "message_header"]

def adminLogin15 : Message where
  name := "AdminLogin15"
  typeId := 15
  members := [("msg_size", uint16), ("message_header", messageHeader.layout), ("heartBtInt", int8)]
  table := ["msg_size", "message_header", "heartBtInt"]

def adminLogout16 : Message where
  name := "AdminLogout16"
  typeId := 16
  members := [("msg_size", uint16), ("message_header", messageHeader.layout), ("text", text)]
  table := ["msg_size", "message_header", "text"]

def securityStatus30 : Message where
  name := "SecurityStatus30"
  typeId := 30
  members := [
    ("msg_size", uint16), ("message_header", messageHeader.layout), ("transactTime", uint64),
    ("securityGroup", securityGroup), ("asset", asset), ("securityID", optional .int32 2147483647),
    ("tradeDate", optional .uint16 65535), ("matchEventIndicator", matchEventIndicator),
    ("securityTradingStatus", securityTradingStatus.optional), ("haltReason", haltReason),
    ("securityTradingEvent", securityTradingEvent)]
  table := [
    "msg_size", "message_header", "transactTime", "securityGroup", "asset", "securityID",
    "tradeDate", "matchEventIndicator", "securityTradingStatus", "haltReason",
    "securityTradingEvent"]

def mdIncrementalRefreshVolume37.noMDEntries : Struct where
  members := [
    ("mDEntrySize", int32), ("securityID", int32), ("rptSeq", uint32),
    ("mDUpdateAction", mdUpdateAction), ("padding", padding 3)]
  table := ["mDEntrySize", "securityID", "rptSeq", "mDUpdateAction", "padding"]

def mdIncrementalRefreshVolume37 : Message where
  name := "MDIncrementalRefreshVolume37"
  typeId := 37
  members := [
    ("msg_size", uint16), ("message_header", messageHeader.layout), ("transactTime", uint64),
    ("matchEventIndicator", matchEventIndicator), ("block_padding", padding 2)]
  groups := [⟨"noMDEntries", mdIncrementalRefreshVolume37.noMDEntries, groupSize⟩]
  table := [
    "msg_size", "message_header", "transactTime", "matchEventIndicator", "block_padding",
    "noMDEntries"]

def quoteRequest39.noRelatedSym : Struct where
  members := [
    ("symbol", symbol), ("securityID", int32), ("orderQty", optional .int32 2147483647),
    ("quoteType", int8), ("side", optional .int8 127), ("padding", padding 2)]
  table := ["symbol", "securityID", "orderQty", "quoteType", "side", "padding"]

def quoteRequest39 : Message where
  name := "QuoteRequest39"
  typeId := 39
  members := [
    ("msg_size", uint16), ("message_header", messageHeader.layout), ("transactTime", uint64),
    ("quoteReqID", quoteReqId), ("matchEventIndicator", matchEventIndicator),
    ("block_padding", padding 3)]
  groups := [⟨"noRelatedSym", quoteRequest39.noRelatedSym, groupSize⟩]
  table := [
    "msg_size", "message_header", "transactTime", "quoteReqID", "matchEventIndicator",
    "block_padding", "noRelatedSym"]

def mdIncrementalRefreshBook46.noMDEntries : Struct where
  members := [
    ("mDEntryPx", pricenull9.layout), ("mDEntrySize", optional .int32 2147483647),
    ("securityID", int32), ("rptSeq", uint32), ("numberOfOrders", optional .int32 2147483647),
    ("mDPriceLevel", uint8), ("mDUpdateAction", mdUpdateAction), ("mDEntryType", mdEntryTypeBook),
    ("tradeableSize", optional .int32 2147483647), ("padding", padding 1)]
  table := [
    "mDEntryPx", "mDEntrySize", "securityID", "rptSeq", "numberOfOrders", "mDPriceLevel",
    "mDUpdateAction", "mDEntryType", "tradeableSize", "padding"]

def mdIncrementalRefreshBook46.noOrderIDEntries : Struct where
  members := [
    ("orderID", uint64), ("mDOrderPriority", optional .uint64 18446744073709551615),
    ("mDDisplayQty", optional .int32 2147483647), ("referenceID", optional .uint8 255),
    ("orderUpdateAction", orderUpdateAction), ("padding", padding 2)]
  table := [
    "orderID", "mDOrderPriority", "mDDisplayQty", "referenceID", "orderUpdateAction", "padding"]

def mdIncrementalRefreshBook46 : Message where
  name := "MDIncrementalRefreshBook46"
  typeId := 46
  members := [
    ("msg_size", uint16), ("message_header", messageHeader.layout), ("transactTime", uint64),
    ("matchEventIndicator", matchEventIndicator), ("block_padding", padding 2)]
  groups := [
    ⟨"noMDEntries", mdIncrementalRefreshBook46.noMDEntries, groupSize⟩,
    ⟨"noOrderIDEntries", mdIncrementalRefreshBook46.noOrderIDEntries, groupSize8Byte⟩]
  table := [
    "msg_size", "message_header", "transactTime", "matchEventIndicator", "block_padding",
    "noMDEntries", "noOrderIDEntries"]

def mdIncrementalRefreshOrderBook47.noMDEntries : Struct where
  members := [
    ("orderID", optional .uint64 18446744073709551615),
    ("mDOrderPriority", optional .uint64 18446744073709551615), ("mDEntryPx", pricenull9.layout),
    ("mDDisplayQty", optional .int32 2147483647), ("securityID", int32),
    ("mDUpdateAction", mdUpdateAction), ("mDEntryType", mdEntryTypeBook), ("padding", padding 6)]
  table := [
    "orderID", "mDOrderPriority", "mDEntryPx", "mDDisplayQty", "securityID", "mDUpdateAction",
    "mDEntryType", "padding"]

def mdIncrementalRefreshOrderBook47 : Message where
  name := "MDIncrementalRefreshOrderBook47"
  typeId := 47
  members := [
    ("msg_size", uint16), ("message_header", messageHeader.layout), ("transactTime", uint64),
    ("matchEventIndicator", matchEventIndicator), ("block_padding", padding 2)]
  groups := [⟨"noMDEntries", mdIncrementalRefreshOrderBook47.noMDEntries, groupSize⟩]
  table := [
    "msg_size", "message_header", "transactTime", "matchEventIndicator", "block_padding",
    "noMDEntries"]

def mdIncrementalRefreshTradeSummary48.noMDEntries : Struct where
  members := [
    ("mDEntryPx", price9.layout), ("mDEntrySize", int32), ("securityID", int32), ("rptSeq", uint32),
    ("numberOfOrders", int32), ("aggressorSide", aggressorSide.optional),
    ("mDUpdateAction", mdUpdateAction), ("mDTradeEntryID", optional .uint32 4294967295),
    ("padding", padding 2)]
  table := [
    "mDEntryPx", "mDEntrySize", "securityID", "rptSeq", "numberOfOrders", "aggressorSide",
    "mDUpdateAction", "mDTradeEntryID", "padding"]

def mdIncrementalRefreshTradeSummary48.noOrderIDEntries : Struct where
  members := [("orderID", uint64), ("lastQty", int32), ("padding", padding 4)]
  table := ["orderID", "lastQty", "padding"]

def mdIncrementalRefreshTradeSummary48 : Message where
  name := "MDIncrementalRefreshTradeSummary48"
  typeId := 48
  members := [
    ("msg_size", uint16), ("message_header", messageHeader.layout), ("transactTime", uint64),
    ("matchEventIndicator", matchEventIndicator), ("block_padding", padding 2)]
  groups := [
    ⟨"noMDEntries", mdIncrementalRefreshTradeSummary48.noMDEntries, groupSize⟩,
    ⟨"noOrderIDEntries", mdIncrementalRefreshTradeSummary48.noOrderIDEntries, groupSize8Byte⟩]
  table := [
    "msg_size", "message_header", "transactTime", "matchEventIndicator", "block_padding",
    "noMDEntries", "noOrderIDEntries"]

def mdIncrementalRefreshDailyStatistics49.noMDEntries : Struct where
  members := [
    ("mDEntryPx", pricenull9.layout), ("mDEntrySize", optional .int32 2147483647),
    ("securityID", int32), ("rptSeq", uint32), ("tradingReferenceDate", optional .uint16 65535),
    ("settlPriceType", settlPriceType), ("mDUpdateAction", mdUpdateAction),
    ("mDEntryType", mdEntryTypeDailyStatistics), ("padding", padding 7)]
  table := [
    "mDEntryPx", "mDEntrySize", "securityID", "rptSeq", "tradingReferenceDate", "settlPriceType",
    "mDUpdateAction", "mDEntryType", "padding"]

def mdIncrementalRefreshDailyStatistics49 : Message where
  name := "MDIncrementalRefreshDailyStatistics49"
  typeId := 49
  members := [
    ("msg_size", uint16), ("message_header", messageHeader.layout), ("transactTime", uint64),
    ("matchEventIndicator", matchEventIndicator), ("block_padding", padding 2)]
  groups := [⟨"noMDEntries", mdIncrementalRefreshDailyStatistics49.noMDEntries, groupSize⟩]
  table := [
    "msg_size", "message_header", "transactTime", "matchEventIndicator", "block_padding",
    "noMDEntries"]

def mdIncrementalRefreshLimitsBanding50.noMDEntries : Struct where
  members := [
    ("highLimitPrice", pricenull9.layout), ("lowLimitPrice", pricenull9.layout),
    ("maxPriceVariation", pricenull9.layout), ("securityID", int32), ("rptSeq", uint32)]
  table := ["highLimitPrice", "lowLimitPrice", "maxPriceVariation", "securityID", "rptSeq"]

def mdIncrementalRefreshLimitsBanding50 : Message where
  name := "MDIncrementalRefreshLimitsBanding50"
  typeId := 50
  members := [
    ("msg_size", uint16), ("message_header", messageHeader.layout), ("transactTime", uint64),
    ("matchEventIndicator", matchEventIndicator), ("block_padding", padding 2)]
  groups := [⟨"noMDEntries", mdIncrementalRefreshLimitsBanding50.noMDEntries, groupSize⟩]
  table := [
    "msg_size", "message_header", "transactTime", "matchEventIndicator", "block_padding",
    "noMDEntries"]

def mdIncrementalRefreshSessionStatistics51.noMDEntries : Struct where
  members := [
    ("mDEntryPx", price9.layout), ("securityID", int32), ("rptSeq", uint32),
    ("openCloseSettlFlag", openCloseSettlFlag.optional), ("mDUpdateAction", mdUpdateAction),
    ("mDEntryType", mdEntryTypeStatistics), ("mDEntrySize", optional .int32 2147483647),
    ("padding", padding 1)]
  table := [
    "mDEntryPx", "securityID", "rptSeq", "openCloseSettlFlag", "mDUpdateAction", "mDEntryType",
    "mDEntrySize", "padding"]

def mdIncrementalRefreshSessionStatistics51 : Message where
  name := "MDIncrementalRefreshSessionStatistics51"
  typeId := 51
  members := [
    ("msg_size", uint16), ("message_header", messageHeader.layout), ("transactTime", uint64),
    ("matchEventIndicator", matchEventIndicator), ("block_padding", padding 2)]
  groups := [⟨"noMDEntries", mdIncrementalRefreshSessionStatistics51.noMDEntries, groupSize⟩]
  table := [
    "msg_size", "message_header", "transactTime", "matchEventIndicator", "block_padding",
    "noMDEntries"]

def snapshotFullRefresh52.noMDEntries : Struct where
  members := [
    ("mDEntryPx", pricenull9.layout), ("mDEntrySize", optional .int32 2147483647),
    ("numberOfOrders", optional .int32 2147483647), ("mDPriceLevel", optional .int8 127),
    ("tradingReferenceDate", optional .uint16 65535),
    ("openCloseSettlFlag", openCloseSettlFlag.optional), ("settlPriceType", settlPriceType),
    ("mDEntryType", mdEntryType)]
  table := [
    "mDEntryPx", "mDEntrySize", "numberOfOrders", "mDPriceLevel", "tradingReferenceDate",
    "openCloseSettlFlag", "settlPriceType", "mDEntryType"]

def snapshotFullRefresh52 : Message where
  name := "SnapshotFullRefresh52"
  typeId := 52
  members := [
    ("msg_size", uint16), ("message_header", messageHeader.layout),
    ("lastMsgSeqNumProcessed", uint32), ("totNumReports", uint32), ("securityID", int32),
    ("rptSeq", uint32), ("transactTime", uint64), ("lastUpdateTime", uint64),
    ("tradeDate", optional .uint16 65535),
    ("mDSecurityTradingStatus", securityTradingStatus.optional),
    ("highLimitPrice", pricenull9.layout), ("lowLimitPrice", pricenull9.layout),
    ("maxPriceVariation", pricenull9.layout)]
  groups := [⟨"noMDEntries", snapshotFullRefresh52.noMDEntries, groupSize⟩]
  table := [
    "msg_size", "message_header", "lastMsgSeqNumProcessed", "totNumReports", "securityID", "rptSeq",
    "transactTime", "lastUpdateTime", "tradeDate", "mDSecurityTradingStatus", "highLimitPrice",
    "lowLimitPrice", "maxPriceVariation", "noMDEntries"]

def snapshotFullRefreshOrderBook53.noMDEntries : Struct where
  members := [
    ("orderID", uint64), ("mDOrderPriority", optional .uint64 18446744073709551615),
    ("mDEntryPx", price9.layout), ("mDDisplayQty", int32), ("mDEntryType", mdEntryTypeBook)]
  table := ["orderID", "mDOrderPriority", "mDEntryPx", "mDDisplayQty", "mDEntryType"]

def snapshotFullRefreshOrderBook53 : Message where
  name := "SnapshotFullRefreshOrderBook53"
  typeId := 53
  members := [
    ("msg_size", uint16), ("message_header", messageHeader.layout),
    ("lastMsgSeqNumProcessed", uint32), ("totNumReports", uint32), ("securityID", int32),
    ("noChunks", uint32), ("currentChunk", uint32), ("transactTime", uint64)]
  groups := [⟨"noMDEntries", snapshotFullRefreshOrderBook53.noMDEntries, groupSize⟩]
  table := [
    "msg_size", "message_header", "lastMsgSeqNumProcessed", "totNumReports", "securityID",
    "noChunks", "currentChunk", "transactTime", "noMDEntries"]

def mdInstrumentDefinitionFuture54.noEvents : Struct where
  members := [("eventType", eventType), ("eventTime", uint64)]
  table := ["eventType", "eventTime"]

def mdInstrumentDefinitionFuture54.noMDFeedTypes : Struct where
  members := [("mDFeedType", mdFeedType), ("marketDepth", int8)]
  table := ["mDFeedType", "marketDepth"]

def mdInstrumentDefinitionFuture54.noInstAttrib : Struct where
  members := [("instAttribValue", instAttribValue)]
  table := ["instAttribValue"]

def mdInstrumentDefinitionFuture54.noLotTypeRules : Struct where
  members := [("lotType", int8), ("minLotSize", decimalQty.layout)]
  table := ["lotType", "minLotSize"]

def mdInstrumentDefinitionFuture54 : Message where
  name := "MDInstrumentDefinitionFuture54"
  typeId := 54
  members := [
    ("msg_size", uint16), ("message_header", messageHeader.layout),
    ("matchEventIndicator", matchEventIndicator), ("totNumReports", optional .uint32 4294967295),
    ("securityUpdateAction", securityUpdateAction), ("lastUpdateTime", uint64),
    ("mDSecurityTradingStatus", securityTradingStatus.optional), ("applID", int16),
    ("marketSegmentID", uint8), ("underlyingProduct", uint8),
    ("securityExchange", securityExchange), ("securityGroup", securityGroup), ("asset", asset),
    ("symbol", symbol), ("securityID", int32), ("securityType", securityType), ("cFICode", cfiCode),
    ("maturityMonthYear", maturityMonthYear.layout), ("currency", currency),
    ("settlCurrency", currency), ("matchAlgorithm", char), ("minTradeVol", uint32),
    ("maxTradeVol", uint32), ("minPriceIncrement", price9.layout),
    ("displayFactor", decimal9.layout), ("mainFraction", optional .uint8 255),
    ("subFraction", optional .uint8 255), ("priceDisplayFormat", optional .uint8 255),
    ("unitOfMeasure", unitOfMeasure), ("unitOfMeasureQty", decimal9NULL.layout),
    ("tradingReferencePrice", pricenull9.layout), ("settlPriceType", settlPriceType),
    ("openInterestQty", optional .int32 2147483647), ("clearedVolume", optional .int32 2147483647),
    ("highLimitPrice", pricenull9.layout), ("lowLimitPrice", pricenull9.layout),
    ("maxPriceVariation", pricenull9.layout), ("decayQuantity", optional .int32 2147483647),
    ("decayStartDate", optional .uint16 65535),
    ("originalContractSize", optional .int32 2147483647),
    ("contractMultiplier", optional .int32 2147483647),
    ("contractMultiplierUnit", optional .int8 127), ("flowScheduleType", optional .int8 127),
    ("minPriceIncrementAmount", pricenull9.layout),
    ("userDefinedInstrument", userDefinedInstrument),
    ("tradingReferenceDate", optional .uint16 65535),
    ("instrumentGUID", optional .uint64 18446744073709551615)]
  groups := [
    ⟨"noEvents", mdInstrumentDefinitionFuture54.noEvents, groupSize⟩,
    ⟨"noMDFeedTypes", mdInstrumentDefinitionFuture54.noMDFeedTypes, groupSize⟩,
    ⟨"noInstAttrib", mdInstrumentDefinitionFuture54.noInstAttrib, groupSize⟩,
    ⟨"noLotTypeRules", mdInstrumentDefinitionFuture54.noLotTypeRules, groupSize⟩]
  table := [
    "msg_size", "message_header", "matchEventIndicator", "totNumReports", "securityUpdateAction",
    "lastUpdateTime", "mDSecurityTradingStatus", "applID", "marketSegmentID", "underlyingProduct",
    "securityExchange", "securityGroup", "asset", "symbol", "securityID", "securityType", "cFICode",
    "maturityMonthYear", "currency", "settlCurrency", "matchAlgorithm", "minTradeVol",
    "maxTradeVol", "minPriceIncrement", "displayFactor", "mainFraction", "subFraction",
    "priceDisplayFormat", "unitOfMeasure", "unitOfMeasureQty", "tradingReferencePrice",
    "settlPriceType", "openInterestQty", "clearedVolume", "highLimitPrice", "lowLimitPrice",
    "maxPriceVariation", "decayQuantity", "decayStartDate", "originalContractSize",
    "contractMultiplier", "contractMultiplierUnit", "flowScheduleType", "minPriceIncrementAmount",
    "userDefinedInstrument", "tradingReferenceDate", "instrumentGUID", "noEvents", "noMDFeedTypes",
    "noInstAttrib", "noLotTypeRules"]

def mdInstrumentDefinitionOption55.noEvents : Struct where
  members := [("eventType", eventType), ("eventTime", uint64)]
  table := ["eventType", "eventTime"]

def mdInstrumentDefinitionOption55.noMDFeedTypes : Struct where
  members := [("mDFeedType", mdFeedType), ("marketDepth", int8)]
  table := ["mDFeedType", "marketDepth"]

def mdInstrumentDefinitionOption55.noInstAttrib : Struct where
  members := [("instAttribValue", instAttribValue)]
  table := ["instAttribValue"]

def mdInstrumentDefinitionOption55.noLotTypeRules : Struct where
  members := [("lotType", int8), ("minLotSize", decimalQty.layout)]
  table := ["lotType", "minLotSize"]

def mdInstrumentDefinitionOption55.noUnderlyings : Struct where
  members := [("underlyingSecurityID", int32), ("underlyingSymbol", underlyingSymbol)]
  table := ["underlyingSecurityID", "underlyingSymbol"]

def mdInstrumentDefinitionOption55.noRelatedInstruments : Struct where
  members := [("relatedSecurityID", int32), ("relatedSymbol", symbol)]
  table := ["relatedSecurityID", "relatedSymbol"]

def mdInstrumentDefinitionOption55 : Message where
  name := "MDInstrumentDefinitionOption55"
  typeId := 55
  members := [
    ("msg_size", uint16), ("message_header", messageHeader.layout),
    ("matchEventIndicator", matchEventIndicator), ("totNumReports", optional .uint32 4294967295),
    ("securityUpdateAction", securityUpdateAction), ("lastUpdateTime", uint64),
    ("mDSecurityTradingStatus", securityTradingStatus.optional), ("applID", int16),
    ("marketSegmentID", uint8), ("underlyingProduct", uint8),
    ("securityExchange", securityExchange), ("securityGroup", securityGroup), ("asset", asset),
    ("symbol", symbol), ("securityID", int32), ("securityType", securityType), ("cFICode", cfiCode),
    ("putOrCall", putOrCall), ("maturityMonthYear", maturityMonthYear.layout),
    ("currency", currency), ("strikePrice", pricenull9.layout), ("strikeCurrency", currency),
    ("settlCurrency", currency), ("minCabPrice", pricenull9.layout), ("matchAlgorithm", char),
    ("minTradeVol", uint32), ("maxTradeVol", uint32), ("minPriceIncrement", pricenull9.layout),
    ("minPriceIncrementAmount", pricenull9.layout), ("displayFactor", decimal9.layout),
    ("tickRule", optional .int8 127), ("mainFraction", optional .uint8 255),
    ("subFraction", optional .uint8 255), ("priceDisplayFormat", optional .uint8 255),
    ("unitOfMeasure", unitOfMeasure), ("unitOfMeasureQty", decimal9NULL.layout),
    ("tradingReferencePrice", pricenull9.layout), ("settlPriceType", settlPriceType),
    ("clearedVolume", optional .int32 2147483647), ("openInterestQty", optional .int32 2147483647),
    ("lowLimitPrice", pricenull9.layout), ("highLimitPrice", pricenull9.layout),
    ("userDefinedInstrument", userDefinedInstrument),
    ("tradingReferenceDate", optional .uint16 65535),
    ("instrumentGUID", optional .uint64 18446744073709551615)]
  groups := [
    ⟨"noEvents", mdInstrumentDefinitionOption55.noEvents, groupSize⟩,
    ⟨"noMDFeedTypes", mdInstrumentDefinitionOption55.noMDFeedTypes, groupSize⟩,
    ⟨"noInstAttrib", mdInstrumentDefinitionOption55.noInstAttrib, groupSize⟩,
    ⟨"noLotTypeRules", mdInstrumentDefinitionOption55.noLotTypeRules, groupSize⟩,
    ⟨"noUnderlyings", mdInstrumentDefinitionOption55.noUnderlyings, groupSize⟩,
    ⟨"noRelatedInstruments", mdInstrumentDefinitionOption55.noRelatedInstruments, groupSize⟩]
  table := [
    "msg_size", "message_header", "matchEventIndicator", "totNumReports", "securityUpdateAction",
    "lastUpdateTime", "mDSecurityTradingStatus", "applID", "marketSegmentID", "underlyingProduct",
    "securityExchange", "securityGroup", "asset", "symbol", "securityID", "securityType", "cFICode",
    "putOrCall", "maturityMonthYear", "currency", "strikePrice", "strikeCurrency", "settlCurrency",
    "minCabPrice", "matchAlgorithm", "minTradeVol", "maxTradeVol", "minPriceIncrement",
    "minPriceIncrementAmount", "displayFactor", "tickRule", "mainFraction", "subFraction",
    "priceDisplayFormat", "unitOfMeasure", "unitOfMeasureQty", "tradingReferencePrice",
    "settlPriceType", "clearedVolume", "openInterestQty", "lowLimitPrice", "highLimitPrice",
    "userDefinedInstrument", "tradingReferenceDate", "instrumentGUID", "noEvents", "noMDFeedTypes",
    "noInstAttrib", "noLotTypeRules", "noUnderlyings", "noRelatedInstruments"]

def mdInstrumentDefinitionSpread56.noEvents : Struct where
  members := [("eventType", eventType), ("eventTime", uint64)]
  table := ["eventType", "eventTime"]

def mdInstrumentDefinitionSpread56.noMDFeedTypes : Struct where
  members := [("mDFeedType", mdFeedType), ("marketDepth", int8)]
  table := ["mDFeedType", "marketDepth"]

def mdInstrumentDefinitionSpread56.noInstAttrib : Struct where
  members := [("instAttribValue", instAttribValue)]
  table := ["instAttribValue"]

def mdInstrumentDefinitionSpread56.noLotTypeRules : Struct where
  members := [("lotType", int8), ("minLotSize", decimalQty.layout)]
  table := ["lotType", "minLotSize"]

def mdInstrumentDefinitionSpread56.noLegs : Struct where
  members := [
    ("legSecurityID", int32), ("legSide", legSide), ("legRatioQty", int8),
    ("legPrice", pricenull9.layout), ("legOptionDelta", decimalQty.layout)]
  table := ["legSecurityID", "legSide", "legRatioQty", "legPrice", "legOptionDelta"]

def mdInstrumentDefinitionSpread56 : Message where
  name := "MDInstrumentDefinitionSpread56"
  typeId := 56
  members := [
    ("msg_size", uint16), ("message_header", messageHeader.layout),
    ("matchEventIndicator", matchEventIndicator), ("totNumReports", optional .uint32 4294967295),
    ("securityUpdateAction", securityUpdateAction), ("lastUpdateTime", uint64),
    ("mDSecurityTradingStatus", securityTradingStatus.optional), ("applID", int16),
    ("marketSegmentID", uint8), ("underlyingProduct", optional .uint8 255),
    ("securityExchange", securityExchange), ("securityGroup", securityGroup), ("asset", asset),
    ("symbol", symbol), ("securityID", int32), ("securityType", securityType), ("cFICode", cfiCode),
    ("maturityMonthYear", maturityMonthYear.layout), ("currency", currency),
    ("securitySubType", securitySubType), ("userDefinedInstrument", userDefinedInstrument),
    ("matchAlgorithm", char), ("minTradeVol", uint32), ("maxTradeVol", uint32),
    ("minPriceIncrement", pricenull9.layout), ("displayFactor", decimal9.layout),
    ("priceDisplayFormat", optional .uint8 255), ("priceRatio", pricenull9.layout),
    ("tickRule", optional .int8 127), ("unitOfMeasure", unitOfMeasure),
    ("tradingReferencePrice", pricenull9.layout), ("settlPriceType", settlPriceType),
    ("openInterestQty", optional .int32 2147483647), ("clearedVolume", optional .int32 2147483647),
    ("highLimitPrice", pricenull9.layout), ("lowLimitPrice", pricenull9.layout),
    ("maxPriceVariation", pricenull9.layout), ("mainFraction", optional .uint8 255),
    ("subFraction", optional .uint8 255), ("tradingReferenceDate", optional .uint16 65535),
    ("priceQuoteMethod", string5), ("riskSet", string6), ("marketSet", string6),
    ("instrumentGUID", optional .uint64 18446744073709551615),
    ("financialInstrumentFullName", longName)]
  groups := [
    ⟨"noEvents", mdInstrumentDefinitionSpread56.noEvents, groupSize⟩,
    ⟨"noMDFeedTypes", mdInstrumentDefinitionSpread56.noMDFeedTypes, groupSize⟩,
    ⟨"noInstAttrib", mdInstrumentDefinitionSpread56.noInstAttrib, groupSize⟩,
    ⟨"noLotTypeRules", mdInstrumentDefinitionSpread56.noLotTypeRules, groupSize⟩,
    ⟨"noLegs", mdInstrumentDefinitionSpread56.noLegs, groupSize⟩]
  table := [
    "msg_size", "message_header", "matchEventIndicator", "totNumReports", "securityUpdateAction",
    "lastUpdateTime", "mDSecurityTradingStatus", "applID", "marketSegmentID", "underlyingProduct",
    "securityExchange", "securityGroup", "asset", "symbol", "securityID", "securityType", "cFICode",
    "maturityMonthYear", "currency", "securitySubType", "userDefinedInstrument", "matchAlgorithm",
    "minTradeVol", "maxTradeVol", "minPriceIncrement", "displayFactor", "priceDisplayFormat",
    "priceRatio", "tickRule", "unitOfMeasure", "tradingReferencePrice", "settlPriceType",
    "openInterestQty", "clearedVolume", "highLimitPrice", "lowLimitPrice", "maxPriceVariation",
    "mainFraction", "subFraction", "tradingReferenceDate", "priceQuoteMethod", "riskSet",
    "marketSet", "instrumentGUID", "financialInstrumentFullName", "noEvents", "noMDFeedTypes",
    "noInstAttrib", "noLotTypeRules", "noLegs"]

def mdInstrumentDefinitionFixedIncome57.noEvents : Struct where
  members := [("eventType", eventType), ("eventTime", uint64)]
  table := ["eventType", "eventTime"]

def mdInstrumentDefinitionFixedIncome57.noMDFeedTypes : Struct where
  members := [("mDFeedType", mdFeedType), ("marketDepth", int8)]
  table := ["mDFeedType", "marketDepth"]

def mdInstrumentDefinitionFixedIncome57.noInstAttrib : Struct where
  members := [("instAttribValue", instAttribValue)]
  table := ["instAttribValue"]

def mdInstrumentDefinitionFixedIncome57.noLotTypeRules : Struct where
  members := [("lotType", int8), ("minLotSize", decimalQty.layout)]
  table := ["lotType", "minLotSize"]

def mdInstrumentDefinitionFixedIncome57 : Message where
  name := "MDInstrumentDefinitionFixedIncome57"
  typeId := 57
  members := [
    ("msg_size", uint16), ("message_header", messageHeader.layout),
    ("matchEventIndicator", matchEventIndicator), ("totNumReports", optional .uint32 4294967295),
    ("securityUpdateAction", securityUpdateAction), ("lastUpdateTime", uint64),
    ("mDSecurityTradingStatus", securityTradingStatus.optional), ("applID", int16),
    ("marketSegmentID", uint8), ("underlyingProduct", uint8),
    ("securityExchange", securityExchange), ("securityGroup", securityGroup), ("asset", asset),
    ("symbol", symbol), ("securityID", int32), ("securityType", securityType), ("cFICode", cfiCode),
    ("currency", currency), ("settlCurrency", currency), ("matchAlgorithm", char),
    ("minTradeVol", uint32), ("maxTradeVol", uint32), ("minPriceIncrement", pricenull9.layout),
    ("displayFactor", decimal9.layout), ("mainFraction", optional .uint8 255),
    ("subFraction", optional .uint8 255), ("priceDisplayFormat", optional .uint8 255),
    ("unitOfMeasure", unitOfMeasure), ("unitOfMeasureQty", decimal9NULL.layout),
    ("tradingReferencePrice", pricenull9.layout), ("tradingReferenceDate", optional .uint16 65535),
    ("highLimitPrice", pricenull9.layout), ("lowLimitPrice", pricenull9.layout),
    ("maxPriceVariation", pricenull9.layout), ("minPriceIncrementAmount", pricenull9.layout),
    ("issueDate", optional .uint16 65535), ("datedDate", optional .uint16 65535),
    ("maturityDate", optional .uint16 65535), ("couponRate", decimal9NULL.layout),
    ("parValue", pricenull9.layout), ("couponFrequencyUnit", string3),
    ("couponFrequencyPeriod", optional .uint16 65535), ("couponDayCount", string20),
    ("countryOfIssue", countryCode), ("issuer", string25),
    ("financialInstrumentFullName", longName), ("securityAltID", string12),
    ("securityAltIDSource", securityAltIDSource.optional), ("priceQuoteMethod", string5),
    ("partyRoleClearingOrg", string5), ("userDefinedInstrument", userDefinedInstrument),
    ("riskSet", string6), ("marketSet", string6),
    ("instrumentGUID", optional .uint64 18446744073709551615)]
  groups := [
    ⟨"noEvents", mdInstrumentDefinitionFixedIncome57.noEvents, groupSize⟩,
    ⟨"noMDFeedTypes", mdInstrumentDefinitionFixedIncome57.noMDFeedTypes, groupSize⟩,
    ⟨"noInstAttrib", mdInstrumentDefinitionFixedIncome57.noInstAttrib, groupSize⟩,
    ⟨"noLotTypeRules", mdInstrumentDefinitionFixedIncome57.noLotTypeRules, groupSize⟩]
  table := [
    "msg_size", "message_header", "matchEventIndicator", "totNumReports", "securityUpdateAction",
    "lastUpdateTime", "mDSecurityTradingStatus", "applID", "marketSegmentID", "underlyingProduct",
    "securityExchange", "securityGroup", "asset", "symbol", "securityID", "securityType", "cFICode",
    "currency", "settlCurrency", "matchAlgorithm", "minTradeVol", "maxTradeVol",
    "minPriceIncrement", "displayFactor", "mainFraction", "subFraction", "priceDisplayFormat",
    "unitOfMeasure", "unitOfMeasureQty", "tradingReferencePrice", "tradingReferenceDate",
    "highLimitPrice", "lowLimitPrice", "maxPriceVariation", "minPriceIncrementAmount", "issueDate",
    "datedDate", "maturityDate", "couponRate", "parValue", "couponFrequencyUnit",
    "couponFrequencyPeriod", "couponDayCount", "countryOfIssue", "issuer",
    "financialInstrumentFullName", "securityAltID", "securityAltIDSource", "priceQuoteMethod",
    "partyRoleClearingOrg", "userDefinedInstrument", "riskSet", "marketSet", "instrumentGUID",
    "noEvents", "noMDFeedTypes", "noInstAttrib", "noLotTypeRules"]

def mdInstrumentDefinitionRepo58.noEvents : Struct where
  members := [("eventType", eventType), ("eventTime", uint64)]
  table := ["eventType", "eventTime"]

def mdInstrumentDefinitionRepo58.noMDFeedTypes : Struct where
  members := [("mDFeedType", mdFeedType), ("marketDepth", int8)]
  table := ["mDFeedType", "marketDepth"]

def mdInstrumentDefinitionRepo58.noInstAttrib : Struct where
  members := [("instAttribValue", instAttribValue)]
  table := ["instAttribValue"]

def mdInstrumentDefinitionRepo58.noLotTypeRules : Struct where
  members := [("lotType", int8), ("minLotSize", decimalQty.layout)]
  table := ["lotType", "minLotSize"]

def mdInstrumentDefinitionRepo58.noUnderlyings : Struct where
  members := [
    ("underlyingSymbol", underlyingSymbol), ("underlyingSecurityID", optional .int32 2147483647),
    ("underlyingSecurityAltID", string12),
    ("underlyingSecurityAltIDSource", securityAltIDSource.optional),
    ("underlyingFinancialInstrumentFullName", longName), ("underlyingSecurityType", securityType),
    ("underlyingCountryOfIssue", countryCode), ("underlyingIssuer", string25),
    ("underlyingMaxLifeTime", optional .uint8 255),
    ("underlyingMinDaysToMaturity", optional .uint16 65535),
    ("underlyingInstrumentGUID", optional .uint64 18446744073709551615),
    ("underlyingMaturityDate", optional .uint16 65535)]
  table := [
    "underlyingSymbol", "underlyingSecurityID", "underlyingSecurityAltID",
    "underlyingSecurityAltIDSource", "underlyingFinancialInstrumentFullName",
    "underlyingSecurityType", "underlyingCountryOfIssue", "underlyingIssuer",
    "underlyingMaxLifeTime", "underlyingMinDaysToMaturity", "underlyingInstrumentGUID",
    "underlyingMaturityDate"]

def mdInstrumentDefinitionRepo58.noRelatedInstruments : Struct where
  members := [
    ("relatedSecurityID", int32), ("relatedSymbol", symbol),
    ("relatedInstrumentGUID", optional .uint64 18446744073709551615)]
  table := ["relatedSecurityID", "relatedSymbol", "relatedInstrumentGUID"]

def mdInstrumentDefinitionRepo58.noBrokenDates : Struct where
  members := [
    ("brokenDateGUID", uint64), ("brokenDateSecurityID", int32),
    ("brokenDateStart", optional .uint16 65535), ("brokenDateEnd", optional .uint16 65535)]
  table := ["brokenDateGUID", "brokenDateSecurityID", "brokenDateStart", "brokenDateEnd"]

def mdInstrumentDefinitionRepo58 : Message where
  name := "MDInstrumentDefinitionRepo58"
  typeId := 58
  members := [
    ("msg_size", uint16), ("message_header", messageHeader.layout),
    ("matchEventIndicator", matchEventIndicator), ("totNumReports", optional .uint32 4294967295),
    ("securityUpdateAction", securityUpdateAction), ("lastUpdateTime", uint64),
    ("mDSecurityTradingStatus", securityTradingStatus.optional), ("applID", int16),
    ("marketSegmentID", uint8), ("underlyingProduct", uint8),
    ("securityExchange", securityExchange), ("securityGroup", securityGroup), ("asset", asset),
    ("symbol", symbol), ("securityID", int32), ("securityType", securityType), ("cFICode", cfiCode),
    ("currency", currency), ("settlCurrency", currency), ("matchAlgorithm", char),
    ("minTradeVol", uint32), ("maxTradeVol", uint32), ("minPriceIncrement", price9.layout),
    ("displayFactor", decimal9.layout), ("unitOfMeasure", unitOfMeasure),
    ("unitOfMeasureQty", decimal9NULL.layout), ("tradingReferencePrice", pricenull9.layout),
    ("tradingReferenceDate", optional .uint16 65535), ("highLimitPrice", pricenull9.layout),
    ("lowLimitPrice", pricenull9.layout), ("maxPriceVariation", pricenull9.layout),
    ("financialInstrumentFullName", longName), ("partyRoleClearingOrg", string5),
    ("startDate", optional .uint16 65535), ("endDate", optional .uint16 65535),
    ("terminationType", string8), ("securitySubType", repoSubType),
    ("moneyOrPar", moneyOrPar.optional), ("maxNoOfSubstitutions", uint8),
    ("priceQuoteMethod", string5), ("userDefinedInstrument", userDefinedInstrument),
    ("riskSet", string6), ("marketSet", string6),
    ("instrumentGUID", optional .uint64 18446744073709551615), ("termCode", string20),
    ("brokenDateTermType", optional .uint8 255)]
  groups := [
    ⟨"noEvents", mdInstrumentDefinitionRepo58.noEvents, groupSize⟩,
    ⟨"noMDFeedTypes", mdInstrumentDefinitionRepo58.noMDFeedTypes, groupSize⟩,
    ⟨"noInstAttrib", mdInstrumentDefinitionRepo58.noInstAttrib, groupSize⟩,
    ⟨"noLotTypeRules", mdInstrumentDefinitionRepo58.noLotTypeRules, groupSize⟩,
    ⟨"noUnderlyings", mdInstrumentDefinitionRepo58.noUnderlyings, groupSize⟩,
    ⟨"noRelatedInstruments", mdInstrumentDefinitionRepo58.noRelatedInstruments, groupSize⟩,
    ⟨"noBrokenDates", mdInstrumentDefinitionRepo58.noBrokenDates, groupSize⟩]
  table := [
    "msg_size", "message_header", "matchEventIndicator", "totNumReports", "securityUpdateAction",
    "lastUpdateTime", "mDSecurityTradingStatus", "applID", "marketSegmentID", "underlyingProduct",
    "securityExchange", "securityGroup", "asset", "symbol", "securityID", "securityType", "cFICode",
    "currency", "settlCurrency", "matchAlgorithm", "minTradeVol", "maxTradeVol",
    "minPriceIncrement", "displayFactor", "unitOfMeasure", "unitOfMeasureQty",
    "tradingReferencePrice", "tradingReferenceDate", "highLimitPrice", "lowLimitPrice",
    "maxPriceVariation", "financialInstrumentFullName", "partyRoleClearingOrg", "startDate",
    "endDate", "terminationType", "securitySubType", "moneyOrPar", "maxNoOfSubstitutions",
    "priceQuoteMethod", "userDefinedInstrument", "riskSet", "marketSet", "instrumentGUID",
    "termCode", "brokenDateTermType", "noEvents", "noMDFeedTypes", "noInstAttrib", "noLotTypeRules",
    "noUnderlyings", "noRelatedInstruments", "noBrokenDates"]

def snapshotRefreshTopOrders59.noMDEntries : Struct where
  members := [
    ("orderID", uint64), ("mDOrderPriority", uint64), ("mDEntryPx", price9.layout),
    ("mDDisplayQty", int32), ("mDEntryType", mdEntryTypeBook)]
  table := ["orderID", "mDOrderPriority", "mDEntryPx", "mDDisplayQty", "mDEntryType"]

def snapshotRefreshTopOrders59 : Message where
  name := "SnapshotRefreshTopOrders59"
  typeId := 59
  members := [
    ("msg_size", uint16), ("message_header", messageHeader.layout), ("transactTime", uint64),
    ("matchEventIndicator", matchEventIndicator), ("securityID", int32)]
  groups := [⟨"noMDEntries", snapshotRefreshTopOrders59.noMDEntries, groupSize⟩]
  table := [
    "msg_size", "message_header", "transactTime", "matchEventIndicator", "securityID",
    "noMDEntries"]

def securityStatusWorkup60.noOrderIDEntries : Struct where
  members := [("orderID", uint64), ("side", side), ("aggressorIndicator", aggressorFlag.optional)]
  table := ["orderID", "side", "aggressorIndicator"]

def securityStatusWorkup60 : Message where
  name := "SecurityStatusWorkup60"
  typeId := 60
  members := [
    ("msg_size", uint16), ("message_header", messageHeader.layout), ("transactTime", uint64),
    ("mDEntryPx", pricenull9.layout), ("securityID", int32),
    ("matchEventIndicator", matchEventIndicator), ("tradeDate", optional .uint16 65535),
    ("tradeLinkID", uint32), ("securityTradingStatus", workupTradingStatus),
    ("haltReason", haltReason), ("securityTradingEvent", securityTradingEvent)]
  groups := [⟨"noOrderIDEntries", securityStatusWorkup60.noOrderIDEntries, groupSize⟩]
  table := [
    "msg_size", "message_header", "transactTime", "mDEntryPx", "securityID", "matchEventIndicator",
    "tradeDate", "tradeLinkID", "securityTradingStatus", "haltReason", "securityTradingEvent",
    "noOrderIDEntries"]

def snapshotFullRefreshTCP61.noMDEntries : Struct where
  members := [
    ("mDEntryPx", pricenull9.layout), ("mDEntrySize", optional .int32 2147483647),
    ("tradeableSize", optional .int32 2147483647), ("numberOfOrders", optional .int32 2147483647),
    ("mDPriceLevel", optional .int8 127), ("openCloseSettlFlag", openCloseSettlFlag.optional),
    ("mDEntryType", mdEntryType), ("tradingReferenceDate", optional .uint16 65535),
    ("settlPriceType", settlPriceType)]
  table := [
    "mDEntryPx", "mDEntrySize", "tradeableSize", "numberOfOrders", "mDPriceLevel",
    "openCloseSettlFlag", "mDEntryType", "tradingReferenceDate", "settlPriceType"]

def snapshotFullRefreshTCP61 : Message where
  name := "SnapshotFullRefreshTCP61"
  typeId := 61
  members := [
    ("msg_size", uint16), ("message_header", messageHeader.layout), ("transactTime", uint64),
    ("matchEventIndicator", matchEventIndicator), ("securityID", int32),
    ("highLimitPrice", pricenull9.layout), ("lowLimitPrice", pricenull9.layout),
    ("maxPriceVariation", pricenull9.layout)]
  groups := [⟨"noMDEntries", snapshotFullRefreshTCP61.noMDEntries, groupSize⟩]
  table := [
    "msg_size", "message_header", "transactTime", "matchEventIndicator", "securityID",
    "highLimitPrice", "lowLimitPrice", "maxPriceVariation", "noMDEntries"]

def collateralMarketValue62.noMDEntries : Struct where
  members := [
    ("underlyingSecurityAltID", string12),
    ("underlyingSecurityAltIDSource", securityAltIDSource.optional),
    ("collateralMarketPrice", price9.layout), ("dirtyPrice", price9.layout),
    ("underlyingInstrumentGUID", uint64), ("mDStreamID", priceSource.optional),
    ("padding", padding 2)]
  table := [
    "underlyingSecurityAltID", "underlyingSecurityAltIDSource", "collateralMarketPrice",
    "dirtyPrice", "underlyingInstrumentGUID", "mDStreamID", "padding"]

def collateralMarketValue62 : Message where
  name := "CollateralMarketValue62"
  typeId := 62
  members := [
    ("msg_size", uint16), ("message_header", messageHeader.layout), ("transactTime", uint64),
    ("matchEventIndicator", matchEventIndicator), ("block_padding", padding 2)]
  groups := [⟨"noMDEntries", collateralMarketValue62.noMDEntries, groupSize⟩]
  table := [
    "msg_size", "message_header", "transactTime", "matchEventIndicator", "block_padding",
    "noMDEntries"]

def mdInstrumentDefinitionFX63.noEvents : Struct where
  members := [("eventType", eventType), ("eventTime", uint64)]
  table := ["eventType", "eventTime"]

def mdInstrumentDefinitionFX63.noMDFeedTypes : Struct where
  members := [("mDFeedType", mdFeedType), ("marketDepth", int8)]
  table := ["mDFeedType", "marketDepth"]

def mdInstrumentDefinitionFX63.noInstAttrib : Struct where
  members := [("instAttribValue", instAttribValue)]
  table := ["instAttribValue"]

def mdInstrumentDefinitionFX63.noLotTypeRules : Struct where
  members := [("lotType", int8), ("minLotSize", uint64)]
  table := ["lotType", "minLotSize"]

def mdInstrumentDefinitionFX63.noTradingSessions : Struct where
  members := [
    ("tradeDate", optional .uint16 65535), ("settlDate", optional .uint16 65535),
    ("maturityDate", optional .uint16 65535), ("securityAltID", string12)]
  table := ["tradeDate", "settlDate", "maturityDate", "securityAltID"]

def mdInstrumentDefinitionFX63 : Message where
  name := "MDInstrumentDefinitionFX63"
  typeId := 63
  members := [
    ("msg_size", uint16), ("message_header", messageHeader.layout),
    ("matchEventIndicator", matchEventIndicator), ("totNumReports", optional .uint32 4294967295),
    ("securityUpdateAction", securityUpdateAction), ("lastUpdateTime", uint64),
    ("mDSecurityTradingStatus", securityTradingStatus.optional), ("applID", int16),
    ("marketSegmentID", uint8), ("underlyingProduct", uint8),
    ("securityExchange", securityExchange), ("securityGroup", securityGroup), ("asset", asset),
    ("symbol", symbol), ("securityID", int32), ("securityType", securityType), ("cFICode", cfiCode),
    ("currency", currency), ("settlCurrency", currency), ("priceQuoteCurrency", currency),
    ("matchAlgorithm", char), ("minTradeVol", uint32), ("maxTradeVol", uint32),
    ("minPriceIncrement", price9.layout), ("displayFactor", decimal9.layout),
    ("pricePrecision", uint8), ("unitOfMeasure", unitOfMeasure),
    ("unitOfMeasureQty", decimal9NULL.layout), ("highLimitPrice", pricenull9.layout),
    ("lowLimitPrice", pricenull9.layout), ("maxPriceVariation", pricenull9.layout),
    ("userDefinedInstrument", userDefinedInstrument), ("financialInstrumentFullName", longName),
    ("fXCurrencySymbol", string7), ("settlType", string3), ("interveningDays", uint16),
    ("fXBenchmarkRateFix", string20), ("rateSource", string12), ("fixRateLocalTime", string8),
    ("fixRateLocalTimeZone", string20), ("minQuoteLife", uint32),
    ("maxPriceDiscretionOffset", price9.layout),
    ("instrumentGUID", optional .uint64 18446744073709551615),
    ("maturityMonthYear", maturityMonthYear.layout), ("settlementLocale", string8),
    ("altMinPriceIncrement", pricenull9.layout), ("altMinQuoteLife", optional .uint32 4294967295),
    ("altPriceIncrementConstraint", pricenull9.layout), ("maxBidAskConstraint", pricenull9.layout)]
  groups := [
    ⟨"noEvents", mdInstrumentDefinitionFX63.noEvents, groupSize⟩,
    ⟨"noMDFeedTypes", mdInstrumentDefinitionFX63.noMDFeedTypes, groupSize⟩,
    ⟨"noInstAttrib", mdInstrumentDefinitionFX63.noInstAttrib, groupSize⟩,
    ⟨"noLotTypeRules", mdInstrumentDefinitionFX63.noLotTypeRules, groupSize⟩,
    ⟨"noTradingSessions", mdInstrumentDefinitionFX63.noTradingSessions, groupSize⟩]
  table := [
    "msg_size", "message_header", "matchEventIndicator", "totNumReports", "securityUpdateAction",
    "lastUpdateTime", "mDSecurityTradingStatus", "applID", "marketSegmentID", "underlyingProduct",
    "securityExchange", "securityGroup", "asset", "symbol", "securityID", "securityType", "cFICode",
    "currency", "settlCurrency", "priceQuoteCurrency", "matchAlgorithm", "minTradeVol",
    "maxTradeVol", "minPriceIncrement", "displayFactor", "pricePrecision", "unitOfMeasure",
    "unitOfMeasureQty", "highLimitPrice", "lowLimitPrice", "maxPriceVariation",
    "userDefinedInstrument", "financialInstrumentFullName", "fXCurrencySymbol", "settlType",
    "interveningDays", "fXBenchmarkRateFix", "rateSource", "fixRateLocalTime",
    "fixRateLocalTimeZone", "minQuoteLife", "maxPriceDiscretionOffset", "instrumentGUID",
    "maturityMonthYear", "settlementLocale", "altMinPriceIncrement", "altMinQuoteLife",
    "altPriceIncrementConstraint", "maxBidAskConstraint", "noEvents", "noMDFeedTypes",
    "noInstAttrib", "noLotTypeRules", "noTradingSessions"]

def mdIncrementalRefreshBookLongQty64.noMDEntries : Struct where
  members := [
    ("mDEntryPx", pricenull9.layout), ("mDEntrySize", optional .uint64 18446744073709551615),
    ("securityID", int32), ("rptSeq", uint32), ("numberOfOrders", optional .int32 2147483647),
    ("mDPriceLevel", uint8), ("mDUpdateAction", mdUpdateAction), ("mDEntryType", mdEntryTypeBook),
    ("padding", padding 1)]
  table := [
    "mDEntryPx", "mDEntrySize", "securityID", "rptSeq", "numberOfOrders", "mDPriceLevel",
    "mDUpdateAction", "mDEntryType", "padding"]

def mdIncrementalRefreshBookLongQty64.noOrderIDEntries : Struct where
  members := [
    ("orderID", uint64), ("mDOrderPriority", optional .uint64 18446744073709551615),
    ("mDDisplayQty", optional .int32 2147483647), ("referenceID", optional .uint8 255),
    ("orderUpdateAction", orderUpdateAction), ("padding", padding 2)]
  table := [
    "orderID", "mDOrderPriority", "mDDisplayQty", "referenceID", "orderUpdateAction", "padding"]

def mdIncrementalRefreshBookLongQty64 : Message where
  name := "MDIncrementalRefreshBookLongQty64"
  typeId := 64
  members := [
    ("msg_size", uint16), ("message_header", messageHeader.layout), ("transactTime", uint64),
    ("matchEventIndicator", matchEventIndicator), ("block_padding", padding 2)]
  groups := [
    ⟨"noMDEntries", mdIncrementalRefreshBookLongQty64.noMDEntries, groupSize⟩,
    ⟨"noOrderIDEntries", mdIncrementalRefreshBookLongQty64.noOrderIDEntries, groupSize8Byte⟩]
  table := [
    "msg_size", "message_header", "transactTime", "matchEventIndicator", "block_padding",
    "noMDEntries", "noOrderIDEntries"]

def mdIncrementalRefreshTradeSummaryLongQty65.noMDEntries : Struct where
  members := [
    ("mDEntryPx", price9.layout), ("mDEntrySize", uint64), ("securityID", int32),
    ("rptSeq", uint32), ("numberOfOrders", int32), ("mDTradeEntryID", uint32),
    ("aggressorSide", aggressorSide.optional), ("mDUpdateAction", mdUpdateAction),
    ("padding", padding 6)]
  table := [
    "mDEntryPx", "mDEntrySize", "securityID", "rptSeq", "numberOfOrders", "mDTradeEntryID",
    "aggressorSide", "mDUpdateAction", "padding"]

def mdIncrementalRefreshTradeSummaryLongQty65.noOrderIDEntries : Struct where
  members := [("orderID", uint64), ("lastQty", int32), ("padding", padding 4)]
  table := ["orderID", "lastQty", "padding"]

def mdIncrementalRefreshTradeSummaryLongQty65 : Message where
  name := "MDIncrementalRefreshTradeSummaryLongQty65"
  typeId := 65
  members := [
    ("msg_size", uint16), ("message_header", messageHeader.layout), ("transactTime", uint64),
    ("matchEventIndicator", matchEventIndicator), ("block_padding", padding 2)]
  groups := [
    ⟨"noMDEntries", mdIncrementalRefreshTradeSummaryLongQty65.noMDEntries, groupSize⟩,
    ⟨"noOrderIDEntries", mdIncrementalRefreshTradeSummaryLongQty65.noOrderIDEntries,
      groupSize8Byte⟩]
  table := [
    "msg_size", "message_header", "transactTime", "matchEventIndicator", "block_padding",
    "noMDEntries", "noOrderIDEntries"]

def mdIncrementalRefreshVolumeLongQty66.noMDEntries : Struct where
  members := [
    ("mDEntrySize", uint64), ("securityID", int32), ("rptSeq", uint32),
    ("mDUpdateAction", mdUpdateAction), ("padding", padding 7)]
  table := ["mDEntrySize", "securityID", "rptSeq", "mDUpdateAction", "padding"]

def mdIncrementalRefreshVolumeLongQty66 : Message where
  name := "MDIncrementalRefreshVolumeLongQty66"
  typeId := 66
  members := [
    ("msg_size", uint16), ("message_header", messageHeader.layout), ("transactTime", uint64),
    ("matchEventIndicator", matchEventIndicator), ("block_padding", padding 2)]
  groups := [⟨"noMDEntries", mdIncrementalRefreshVolumeLongQty66.noMDEntries, groupSize⟩]
  table := [
    "msg_size", "message_header", "transactTime", "matchEventIndicator", "block_padding",
    "noMDEntries"]

def mdIncrementalRefreshSessionStatisticsLongQty67.noMDEntries : Struct where
  members := [
    ("mDEntryPx", price9.layout), ("mDEntrySize", optional .uint64 18446744073709551615),
    ("securityID", int32), ("rptSeq", uint32), ("openCloseSettlFlag", openCloseSettlFlag.optional),
    ("mDUpdateAction", mdUpdateAction), ("mDEntryType", mdEntryTypeStatistics),
    ("padding", padding 5)]
  table := [
    "mDEntryPx", "mDEntrySize", "securityID", "rptSeq", "openCloseSettlFlag", "mDUpdateAction",
    "mDEntryType", "padding"]

def mdIncrementalRefreshSessionStatisticsLongQty67 : Message where
  name := "MDIncrementalRefreshSessionStatisticsLongQty67"
  typeId := 67
  members := [
    ("msg_size", uint16), ("message_header", messageHeader.layout), ("transactTime", uint64),
    ("matchEventIndicator", matchEventIndicator), ("block_padding", padding 2)]
  groups := [⟨"noMDEntries", mdIncrementalRefreshSessionStatisticsLongQty67.noMDEntries, groupSize⟩]
  table := [
    "msg_size", "message_header", "transactTime", "matchEventIndicator", "block_padding",
    "noMDEntries"]

def snapshotFullRefreshTCPLongQty68.noMDEntries : Struct where
  members := [
    ("mDEntryPx", pricenull9.layout), ("mDEntrySize", optional .uint64 18446744073709551615),
    ("numberOfOrders", optional .int32 2147483647), ("mDPriceLevel", optional .uint8 255),
    ("openCloseSettlFlag", openCloseSettlFlag.optional), ("mDEntryType", mdEntryType)]
  table := [
    "mDEntryPx", "mDEntrySize", "numberOfOrders", "mDPriceLevel", "openCloseSettlFlag",
    "mDEntryType"]

def snapshotFullRefreshTCPLongQty68 : Message where
  name := "SnapshotFullRefreshTCPLongQty68"
  typeId := 68
  members := [
    ("msg_size", uint16), ("message_header", messageHeader.layout), ("transactTime", uint64),
    ("matchEventIndicator", matchEventIndicator), ("securityID", int32),
    ("highLimitPrice", pricenull9.layout), ("lowLimitPrice", pricenull9.layout),
    ("maxPriceVariation", pricenull9.layout)]
  groups := [⟨"noMDEntries", snapshotFullRefreshTCPLongQty68.noMDEntries, groupSize⟩]
  table := [
    "msg_size", "message_header", "transactTime", "matchEventIndicator", "securityID",
    "highLimitPrice", "lowLimitPrice", "maxPriceVariation", "noMDEntries"]

def snapshotFullRefreshLongQty69.noMDEntries : Struct where
  members := [
    ("mDEntryPx", pricenull9.layout), ("mDEntrySize", optional .uint64 18446744073709551615),
    ("numberOfOrders", optional .int32 2147483647), ("mDPriceLevel", optional .uint8 255),
    ("openCloseSettlFlag", openCloseSettlFlag.optional), ("mDEntryType", mdEntryType)]
  table := [
    "mDEntryPx", "mDEntrySize", "numberOfOrders", "mDPriceLevel", "openCloseSettlFlag",
    "mDEntryType"]

def snapshotFullRefreshLongQty69 : Message where
  name := "SnapshotFullRefreshLongQty69"
  typeId := 69
  members := [
    ("msg_size", uint16), ("message_header", messageHeader.layout),
    ("lastMsgSeqNumProcessed", uint32), ("totNumReports", uint32), ("securityID", int32),
    ("rptSeq", uint32), ("transactTime", uint64), ("lastUpdateTime", uint64),
    ("tradeDate", optional .uint16 65535),
    ("mDSecurityTradingStatus", securityTradingStatus.optional),
    ("highLimitPrice", pricenull9.layout), ("lowLimitPrice", pricenull9.layout),
    ("maxPriceVariation", pricenull9.layout)]
  groups := [⟨"noMDEntries", snapshotFullRefreshLongQty69.noMDEntries, groupSize⟩]
  table := [
    "msg_size", "message_header", "lastMsgSeqNumProcessed", "totNumReports", "securityID", "rptSeq",
    "transactTime", "lastUpdateTime", "tradeDate", "mDSecurityTradingStatus", "highLimitPrice",
    "lowLimitPrice", "maxPriceVariation", "noMDEntries"]

/-- The members that the describe table of `extended_message_header` lists. -/
def extendedMessageHeader : MemberType :=
  described [("msg_size", uint16), ("blockLength", uint16), ("templateId", uint16)]

def messages : Variant where
  order := .little
  header := extendedMessageHeader
  idInHeader := ["templateId"]
  idOffset := 4
  idType := .uint16
  located := by decide
  alternatives := [
    adminHeartbeat12, adminLogin15, adminLogout16, securityStatus30, mdIncrementalRefreshVolume37,
    quoteRequest39, channelReset4, mdIncrementalRefreshBook46, mdIncrementalRefreshOrderBook47,
    mdIncrementalRefreshTradeSummary48, mdIncrementalRefreshDailyStatistics49,
    mdIncrementalRefreshLimitsBanding50, mdIncrementalRefreshSessionStatistics51,
    snapshotFullRefresh52, snapshotFullRefreshOrderBook53, mdInstrumentDefinitionFuture54,
    mdInstrumentDefinitionOption55, mdInstrumentDefinitionSpread56,
    mdInstrumentDefinitionFixedIncome57, mdInstrumentDefinitionRepo58, snapshotRefreshTopOrders59,
    securityStatusWorkup60, snapshotFullRefreshTCP61, collateralMarketValue62,
    mdInstrumentDefinitionFX63, mdIncrementalRefreshBookLongQty64,
    mdIncrementalRefreshTradeSummaryLongQty65, mdIncrementalRefreshVolumeLongQty66,
    mdIncrementalRefreshSessionStatisticsLongQty67, snapshotFullRefreshTCPLongQty68,
    snapshotFullRefreshLongQty69]
  distinct := by decide
  idMember := ["message_header", "templateId"]
  carried := by decide +kernel

end MdPrsr.Cme.V13
