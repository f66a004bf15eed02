import MdPrsr.Variant

/-!
# EOBI messages, versions 13.0 and 13.1

Every member is an optional, padding, a character array or a component. Of an
enumeration only the underlying type and `NoValue` matter to the coders.
-/
namespace MdPrsr.Eobi.V130
open Wire

def bodyLen : MemberType := optional .uint16 0xFFFF
def msgSeqNum : MemberType := optional .uint32 0xFFFFFFFF
def securityID : MemberType := optional .uint64 0x8000000000000000
def transactTime : MemberType := optional .uint64 0xFFFFFFFFFFFFFFFF
def securityDesc : MemberType := chars 40
def securitySubType : MemberType := optional .uint32 0x80000000
def quantityScalingFactor : MemberType := optional .uint16 0xFFFF
def legRatioMultiplier : MemberType := optional .uint32 0xFFFFFFFF
def noLegs : MemberType := optional .uint8 0xFF
def legSymbol : MemberType := optional .uint32 0x80000000
def legSecurityID : MemberType := optional .uint64 0x8000000000000000
def legPrice : MemberType := optional (floatDecimal .uint64 8) 0x8000000000000000
def legRatioQty : MemberType := optional .uint32 0x80000000
def maturityDate : MemberType := optional .uint32 0xFFFFFFFF
def strikePrice : MemberType := optional (floatDecimal .uint64 8) 0x8000000000000000
def optAttribute : MemberType := optional .uint32 0xFFFFFFFF
def contractDate : MemberType := optional .uint32 0xFFFFFFFF
def securityReferenceDataSupplement : MemberType := optional .uint32 0xFFFFFFFF
def relatedSecurityID : MemberType := optional .uint64 0x8000000000000000
def bidPx : MemberType := optional (floatDecimal .uint64 8) 0x8000000000000000
def offerPx : MemberType := optional (floatDecimal .uint64 8) 0x8000000000000000
def bidSize : MemberType := optional (floatDecimal .uint64 4) 0x8000000000000000
def offerSize : MemberType := optional (floatDecimal .uint64 4) 0x8000000000000000
def lastPx : MemberType := optional (floatDecimal .uint64 8) 0x8000000000000000
def lastQty : MemberType := optional (floatDecimal .uint64 4) 0x8000000000000000
def imbalanceQty : MemberType := optional (floatDecimal .uint64 4) 0x8000000000000000
def requestTime : MemberType := optional .uint64 0xFFFFFFFFFFFFFFFF
def execID : MemberType := optional .uint64 0xFFFFFFFFFFFFFFFF
def tradingHHIIndicator : MemberType := optional .uint8 0xFF
def trdRegTSPrevTimePriority : MemberType := optional .uint64 0xFFFFFFFFFFFFFFFF
def displayQty : MemberType := optional (floatDecimal .uint64 4) 0x8000000000000000
def price : MemberType := optional (floatDecimal .uint64 8) 0x8000000000000000
def restingHiddenQty : MemberType := optional (floatDecimal .uint64 4) 0x8000000000000000
def restingCxlQty : MemberType := optional (floatDecimal .uint64 4) 0x8000000000000000
def aggressorTime : MemberType := optional .uint64 0xFFFFFFFFFFFFFFFF
def trdMatchID : MemberType := optional .uint32 0xFFFFFFFF
def trdRegTSTimePriority : MemberType := optional .uint64 0xFFFFFFFFFFFFFFFF
def lastMsgSeqNumProcessed : MemberType := optional .uint32 0xFFFFFFFF
def highPx : MemberType := optional (floatDecimal .uint64 8) 0x8000000000000000
def lowPx : MemberType := optional (floatDecimal .uint64 8) 0x8000000000000000
def lastUpdateTime : MemberType := optional .uint64 0xFFFFFFFFFFFFFFFF
def trdRegTSExecutionTime : MemberType := optional .uint64 0xFFFFFFFFFFFFFFFF
def totNoOrders : MemberType := optional .uint16 0xFFFF
def noMDEntries : MemberType := optional .uint8 0xFF
def mdEntryPx : MemberType := optional (floatDecimal .uint64 8) 0x8000000000000000
def mdEntrySize : MemberType := optional (floatDecimal .uint64 4) 0x8000000000000000
def nonDisclosedTradeVolume : MemberType := optional (floatDecimal .uint64 4) 0x8000000000000000
def noRelatedSym : MemberType := optional .uint8 0xFF
def prevPrice : MemberType := optional (floatDecimal .uint64 8) 0x8000000000000000
def prevDisplayQty : MemberType := optional (floatDecimal .uint64 4) 0x8000000000000000
def applSeqNum : MemberType := optional .uint32 0xFFFFFFFF
def marketSegmentID : MemberType := optional .uint32 0x80000000
def partitionID : MemberType := optional .uint8 0xFF
def dscp : MemberType := optional .uint8 0xFF
def transBkdTime : MemberType := optional .uint64 0xFFFFFFFFFFFFFFFF
def numberOfBuySides : MemberType := optional .uint16 0xFFFF
def numberOfSellSides : MemberType := optional .uint16 0xFFFF
def numberOfBuyOrders : MemberType := optional .uint16 0xFFFF
def numberOfSellOrders : MemberType := optional .uint16 0xFFFF

def productComplex : Enumeration := ⟨.uint8, 0xFF⟩
def impliedMarketIndicator : Enumeration := ⟨.uint8, 0xFF⟩
def lastFragment : Enumeration := ⟨.uint8, 0xFF⟩
def legSecurityType : Enumeration := ⟨.uint8, 0xFF⟩
def legSide : Enumeration := ⟨.uint8, 0xFF⟩
def securityType : Enumeration := ⟨.uint8, 0xFF⟩
def putOrCall : Enumeration := ⟨.uint8, 0xFF⟩
def exerciseStyle : Enumeration := ⟨.uint8, 0xFF⟩
def settlMethod : Enumeration := ⟨.uint8, 0xFF⟩
def potentialSecurityTradingEvent : Enumeration := ⟨.uint8, 0xFF⟩
def bidOrdType : Enumeration := ⟨.uint8, 0xFF⟩
def offerOrdType : Enumeration := ⟨.uint8, 0xFF⟩
def securityTradingStatus : Enumeration := ⟨.uint8, 0xFF⟩
def side : Enumeration := ⟨.uint8, 0xFF⟩
def crossRequestType : Enumeration := ⟨.uint8, 0xFF⟩
def inputSource : Enumeration := ⟨.uint8, 0xFF⟩
def aggressorSide : Enumeration := ⟨.uint8, 0xFF⟩
def tradeCondition : Enumeration := ⟨.uint16, 0xFFFF⟩
def ordType : Enumeration := ⟨.uint8, 0xFF⟩
def algorithmicTradeIndicator : Enumeration := ⟨.uint8, 0xFF⟩
def hhiIndicator : Enumeration := ⟨.uint8, 0x80⟩
def securityStatus : Enumeration := ⟨.uint8, 0xFF⟩
def marketCondition : Enumeration := ⟨.uint8, 0xFF⟩
def fastMarketIndicator : Enumeration := ⟨.uint8, 0xFF⟩
def securityTradingEvent : Enumeration := ⟨.uint8, 0xFF⟩
def soldOutIndicator : Enumeration := ⟨.uint8, 0xFF⟩
def tesSecurityStatus : Enumeration := ⟨.uint8, 0xFF⟩
def mdOriginType : Enumeration := ⟨.uint8, 0xFF⟩
def mdEntryType : Enumeration := ⟨.uint8, 0xFF⟩
def trdType : Enumeration := ⟨.uint16, 0xFFFF⟩
def multiLegReportingType : Enumeration := ⟨.uint8, 0xFF⟩
def multiLegPriceModel : Enumeration := ⟨.uint8, 0xFF⟩
def instrumentScopeProductComplex : Enumeration := ⟨.uint8, 0xFF⟩
def securityMassStatus : Enumeration := ⟨.uint8, 0xFF⟩
def securityMassTradingStatus : Enumeration := ⟨.uint8, 0xFF⟩
def massMarketCondition : Enumeration := ⟨.uint8, 0xFF⟩
def securityMassTradingEvent : Enumeration := ⟨.uint8, 0xFF⟩
def massSoldOutIndicator : Enumeration := ⟨.uint8, 0xFF⟩
def tesSecurityMassStatus : Enumeration := ⟨.uint8, 0xFF⟩
def prevPriceHHIIndicator : Enumeration := ⟨.uint8, 0x80⟩
def completionIndicator : Enumeration := ⟨.uint8, 0xFF⟩
def applSeqResetIndicator : Enumeration := ⟨.uint8, 0xFF⟩
def tradingSessionID : Enumeration := ⟨.uint8, 0xFF⟩
def tradingSessionSubID : Enumeration := ⟨.uint8, 0xFF⟩
def tradSesStatus : Enumeration := ⟨.uint8, 0xFF⟩
def tesTradSesStatus : Enumeration := ⟨.uint8, 0xFF⟩
def matchType : Enumeration := ⟨.uint8, 0xFF⟩
def matchSubType : Enumeration := ⟨.uint8, 0xFF⟩

def messageHeaderComp : Struct where
  members := [("bodyLen", bodyLen), ("templateID", uint16), ("msgSeqNum", msgSeqNum)]
  table := ["bodyLen", "templateID", "msgSeqNum"]

def instrmtLegGrpComp : Struct where
  members := [
    ("legSymbol", legSymbol), ("pad4", padding 4), ("legSecurityID", legSecurityID),
    ("legPrice", legPrice), ("legRatioQty", legRatioQty),
    ("legSecurityType", legSecurityType.optional), ("legSide", legSide.optional),
    ("pad2", padding 2)]
  table := [
    "legSymbol", "pad4", "legSecurityID", "legPrice", "legRatioQty", "legSecurityType", "legSide",
    "pad2"]

def relatedInstrumentGrpComp : Struct where
  members := [("relatedSecurityID", relatedSecurityID)]
  table := ["relatedSecurityID"]

def remainingOrderDetailsComp : Struct where
  members := [
    ("trdRegTSPrevTimePriority", trdRegTSPrevTimePriority), ("displayQty", displayQty),
    ("price", price)]
  table := ["trdRegTSPrevTimePriority", "displayQty", "price"]

def mdInstrumentEntryGrpComp : Struct where
  members := [
    ("mDEntryPx", mdEntryPx), ("mDEntrySize", mdEntrySize), ("mDOriginType", mdOriginType.optional),
    ("mDEntryType", mdEntryType.optional), ("tradeCondition", tradeCondition.optional),
    ("trdType", trdType.optional), ("multiLegReportingType", multiLegReportingType.optional),
    ("multiLegPriceModel", multiLegPriceModel.optional),
    ("nonDisclosedTradeVolume", nonDisclosedTradeVolume)]
  table := [
    "mDEntryPx", "mDEntrySize", "mDOriginType", "mDEntryType", "tradeCondition", "trdType",
    "multiLegReportingType", "multiLegPriceModel", "nonDisclosedTradeVolume"]

def mdTradeEntryGrpComp : Struct where
  members := [
    ("mDEntryPx", mdEntryPx), ("mDEntrySize", mdEntrySize), ("mDEntryType", mdEntryType.optional),
    ("pad7", padding 7)]
  table := ["mDEntryPx", "mDEntrySize", "mDEntryType", "pad7"]

def secMassStatGrpComp : Struct where
  members := [
    ("securityID", securityID), ("highPx", highPx), ("lowPx", lowPx),
    ("securityStatus", securityStatus.optional),
    ("securityTradingStatus", securityTradingStatus.optional),
    ("marketCondition", marketCondition.optional),
    ("securityTradingEvent", securityTradingEvent.optional),
    ("soldOutIndicator", soldOutIndicator.optional),
    ("tESSecurityStatus", tesSecurityStatus.optional), ("pad2", padding 2)]
  table := [
    "securityID", "highPx", "lowPx", "securityStatus", "securityTradingStatus", "marketCondition",
    "securityTradingEvent", "soldOutIndicator", "tESSecurityStatus", "pad2"]

def orderDetailsComp : Struct where
  members := [
    ("trdRegTSTimePriority", trdRegTSTimePriority), ("displayQty", displayQty),
    ("side", side.optional), ("ordType", ordType.optional), ("hHIIndicator", hhiIndicator.optional),
    ("pad5", padding 5), ("price", price)]
  table := [
    "trdRegTSTimePriority", "displayQty", "side", "ordType", "hHIIndicator", "pad5", "price"]

def addComplexInstrument : Message where
  name := "AddComplexInstrument"
  typeId := 13400
  members := [
    ("messageHeader", messageHeaderComp.layout), ("securityID", securityID),
    ("transactTime", transactTime), ("securityDesc", securityDesc),
    ("securitySubType", securitySubType), ("productComplex", productComplex.optional),
    ("impliedMarketIndicator", impliedMarketIndicator.optional),
    ("quantityScalingFactor", quantityScalingFactor), ("legRatioMultiplier", legRatioMultiplier),
    ("noLegs", noLegs), ("pad2", padding 2), ("lastFragment", lastFragment.optional),
    ("instrmtLegGrp", instrmtLegGrpComp.layout)]
  table := [
    "messageHeader", "securityID", "transactTime", "securityDesc", "securitySubType",
    "productComplex", "impliedMarketIndicator", "quantityScalingFactor", "legRatioMultiplier",
    "noLegs", "pad2", "lastFragment", "instrmtLegGrp"]

def addFlexibleInstrument : Message where
  name := "AddFlexibleInstrument"
  typeId := 13401
  members := [
    ("messageHeader", messageHeaderComp.layout), ("securityID", securityID),
    ("transactTime", transactTime), ("securityDesc", securityDesc),
    ("securityType", securityType.optional), ("putOrCall", putOrCall.optional),
    ("exerciseStyle", exerciseStyle.optional), ("settlMethod", settlMethod.optional),
    ("maturityDate", maturityDate), ("strikePrice", strikePrice), ("optAttribute", optAttribute),
    ("contractDate", contractDate),
    ("securityReferenceDataSupplement", securityReferenceDataSupplement), ("pad4", padding 4)]
  table := [
    "messageHeader", "securityID", "transactTime", "securityDesc", "securityType", "putOrCall",
    "exerciseStyle", "settlMethod", "maturityDate", "strikePrice", "optAttribute", "contractDate",
    "securityReferenceDataSupplement", "pad4"]

def addScaledSimpleInstrument : Message where
  name := "AddScaledSimpleInstrument"
  typeId := 13402
  members := [
    ("messageHeader", messageHeaderComp.layout), ("securityID", securityID),
    ("transactTime", transactTime), ("securityDesc", securityDesc),
    ("securityType", securityType.optional), ("pad1", padding 1),
    ("quantityScalingFactor", quantityScalingFactor), ("pad4", padding 4),
    ("relatedInstrumentGrp", relatedInstrumentGrpComp.layout)]
  table := [
    "messageHeader", "securityID", "transactTime", "securityDesc", "securityType", "pad1",
    "quantityScalingFactor", "pad4", "relatedInstrumentGrp"]

def auctionBBO : Message where
  name := "AuctionBBO"
  typeId := 13500
  members := [
    ("messageHeader", messageHeaderComp.layout), ("transactTime", transactTime),
    ("securityID", securityID), ("bidPx", bidPx), ("offerPx", offerPx), ("bidSize", bidSize),
    ("offerSize", offerSize),
    ("potentialSecurityTradingEvent", potentialSecurityTradingEvent.optional),
    ("bidOrdType", bidOrdType.optional), ("offerOrdType", offerOrdType.optional),
    ("pad5", padding 5)]
  table := [
    "messageHeader", "transactTime", "securityID", "bidPx", "offerPx", "bidSize", "offerSize",
    "potentialSecurityTradingEvent", "bidOrdType", "offerOrdType", "pad5"]

def auctionClearingPrice : Message where
  name := "AuctionClearingPrice"
  typeId := 13501
  members := [
    ("messageHeader", messageHeaderComp.layout), ("transactTime", transactTime),
    ("securityID", securityID), ("lastPx", lastPx), ("lastQty", lastQty),
    ("imbalanceQty", imbalanceQty), ("securityTradingStatus", securityTradingStatus.optional),
    ("potentialSecurityTradingEvent", potentialSecurityTradingEvent.optional), ("pad6", padding 6)]
  table := [
    "messageHeader", "transactTime", "securityID", "lastPx", "lastQty", "imbalanceQty",
    "securityTradingStatus", "potentialSecurityTradingEvent", "pad6"]

def crossRequest : Message where
  name := "CrossRequest"
  typeId := 13502
  members := [
    ("messageHeader", messageHeaderComp.layout), ("securityID", securityID), ("lastPx", lastPx),
    ("lastQty", lastQty), ("side", side.optional), ("crossRequestType", crossRequestType.optional),
    ("inputSource", inputSource.optional), ("pad5", padding 5), ("transactTime", transactTime)]
  table := [
    "messageHeader", "securityID", "lastPx", "lastQty", "side", "crossRequestType", "inputSource",
    "pad5", "transactTime"]

def executionSummary : Message where
  name := "ExecutionSummary"
  typeId := 13202
  members := [
    ("messageHeader", messageHeaderComp.layout), ("securityID", securityID),
    ("requestTime", requestTime), ("execID", execID), ("lastQty", lastQty),
    ("aggressorSide", aggressorSide.optional), ("pad1", padding 1),
    ("tradeCondition", tradeCondition.optional), ("tradingHHIIndicator", tradingHHIIndicator),
    ("pad3", padding 3), ("lastPx", lastPx),
    ("remainingOrderDetails", remainingOrderDetailsComp.layout),
    ("restingHiddenQty", restingHiddenQty), ("restingCxlQty", restingCxlQty),
    ("aggressorTime", aggressorTime)]
  table := [
    "messageHeader", "securityID", "requestTime", "execID", "lastQty", "aggressorSide", "pad1",
    "tradeCondition", "tradingHHIIndicator", "pad3", "lastPx", "remainingOrderDetails",
    "restingHiddenQty", "restingCxlQty", "aggressorTime"]

def fullOrderExecution : Message where
  name := "FullOrderExecution"
  typeId := 13104
  members := [
    ("messageHeader", messageHeaderComp.layout), ("side", side.optional),
    ("ordType", ordType.optional),
    ("algorithmicTradeIndicator", algorithmicTradeIndicator.optional),
    ("hHIIndicator", hhiIndicator.optional), ("trdMatchID", trdMatchID), ("price", price),
    ("trdRegTSTimePriority", trdRegTSTimePriority), ("securityID", securityID),
    ("lastQty", lastQty), ("lastPx", lastPx)]
  table := [
    "messageHeader", "side", "ordType", "algorithmicTradeIndicator", "hHIIndicator", "trdMatchID",
    "price", "trdRegTSTimePriority", "securityID", "lastQty", "lastPx"]

def heartbeat : Message where
  name := "Heartbeat"
  typeId := 13001
  members := [
    ("messageHeader", messageHeaderComp.layout), ("lastMsgSeqNumProcessed", lastMsgSeqNumProcessed),
    ("pad4", padding 4)]
  table := ["messageHeader", "lastMsgSeqNumProcessed", "pad4"]

def instrumentStateChange : Message where
  name := "InstrumentStateChange"
  typeId := 13301
  members := [
    ("messageHeader", messageHeaderComp.layout), ("securityID", securityID),
    ("securityStatus", securityStatus.optional),
    ("securityTradingStatus", securityTradingStatus.optional),
    ("marketCondition", marketCondition.optional),
    ("fastMarketIndicator", fastMarketIndicator.optional),
    ("securityTradingEvent", securityTradingEvent.optional),
    ("soldOutIndicator", soldOutIndicator.optional), ("pad2", padding 2), ("highPx", highPx),
    ("lowPx", lowPx), ("transactTime", transactTime),
    ("tESSecurityStatus", tesSecurityStatus.optional), ("pad7", padding 7)]
  table := [
    "messageHeader", "securityID", "securityStatus", "securityTradingStatus", "marketCondition",
    "fastMarketIndicator", "securityTradingEvent", "soldOutIndicator", "pad2", "highPx", "lowPx",
    "transactTime", "tESSecurityStatus", "pad7"]

def instrumentSummary : Message where
  name := "InstrumentSummary"
  typeId := 13601
  members := [
    ("messageHeader", messageHeaderComp.layout), ("securityID", securityID),
    ("lastUpdateTime", lastUpdateTime), ("trdRegTSExecutionTime", trdRegTSExecutionTime),
    ("totNoOrders", totNoOrders), ("securityStatus", securityStatus.optional),
    ("securityTradingStatus", securityTradingStatus.optional),
    ("marketCondition", marketCondition.optional),
    ("fastMarketIndicator", fastMarketIndicator.optional),
    ("securityTradingEvent", securityTradingEvent.optional),
    ("soldOutIndicator", soldOutIndicator.optional), ("highPx", highPx), ("lowPx", lowPx),
    ("productComplex", productComplex.optional), ("noMDEntries", noMDEntries),
    ("tESSecurityStatus", tesSecurityStatus.optional), ("pad5", padding 5),
    ("mDInstrumentEntryGrp", mdInstrumentEntryGrpComp.layout)]
  table := [
    "messageHeader", "securityID", "lastUpdateTime", "trdRegTSExecutionTime", "totNoOrders",
    "securityStatus", "securityTradingStatus", "marketCondition", "fastMarketIndicator",
    "securityTradingEvent", "soldOutIndicator", "highPx", "lowPx", "productComplex", "noMDEntries",
    "tESSecurityStatus", "pad5", "mDInstrumentEntryGrp"]

def massInstrumentStateChange : Message where
  name := "MassInstrumentStateChange"
  typeId := 13302
  members := [
    ("messageHeader", messageHeaderComp.layout),
    ("instrumentScopeProductComplex", instrumentScopeProductComplex.optional),
    ("securityMassStatus", securityMassStatus.optional),
    ("securityMassTradingStatus", securityMassTradingStatus.optional),
    ("massMarketCondition", massMarketCondition.optional),
    ("fastMarketIndicator", fastMarketIndicator.optional),
    ("securityMassTradingEvent", securityMassTradingEvent.optional),
    ("massSoldOutIndicator", massSoldOutIndicator.optional),
    ("tESSecurityMassStatus", tesSecurityMassStatus.optional), ("transactTime", transactTime),
    ("lastFragment", lastFragment.optional), ("noRelatedSym", noRelatedSym), ("pad6", padding 6),
    ("secMassStatGrp", secMassStatGrpComp.layout)]
  table := [
    "messageHeader", "instrumentScopeProductComplex", "securityMassStatus",
    "securityMassTradingStatus", "massMarketCondition", "fastMarketIndicator",
    "securityMassTradingEvent", "massSoldOutIndicator", "tESSecurityMassStatus", "transactTime",
    "lastFragment", "noRelatedSym", "pad6", "secMassStatGrp"]

def orderAdd : Message where
  name := "OrderAdd"
  typeId := 13100
  members := [
    ("messageHeader", messageHeaderComp.layout), ("requestTime", requestTime),
    ("securityID", securityID), ("orderDetails", orderDetailsComp.layout)]
  table := ["messageHeader", "requestTime", "securityID", "orderDetails"]

def orderDelete : Message where
  name := "OrderDelete"
  typeId := 13102
  members := [
    ("messageHeader", messageHeaderComp.layout), ("requestTime", requestTime),
    ("transactTime", transactTime), ("securityID", securityID),
    ("orderDetails", orderDetailsComp.layout)]
  table := ["messageHeader", "requestTime", "transactTime", "securityID", "orderDetails"]

def orderMassDelete : Message where
  name := "OrderMassDelete"
  typeId := 13103
  members := [
    ("messageHeader", messageHeaderComp.layout), ("securityID", securityID),
    ("transactTime", transactTime)]
  table := ["messageHeader", "securityID", "transactTime"]

def orderModify : Message where
  name := "OrderModify"
  typeId := 13101
  members := [
    ("messageHeader", messageHeaderComp.layout), ("requestTime", requestTime),
    ("trdRegTSPrevTimePriority", trdRegTSPrevTimePriority), ("prevPrice", prevPrice),
    ("prevDisplayQty", prevDisplayQty), ("securityID", securityID),
    ("orderDetails", orderDetailsComp.layout),
    ("prevPriceHHIIndicator", prevPriceHHIIndicator.optional), ("pad7", padding 7)]
  table := [
    "messageHeader", "requestTime", "trdRegTSPrevTimePriority", "prevPrice", "prevDisplayQty",
    "securityID", "orderDetails", "prevPriceHHIIndicator", "pad7"]

def orderModifySamePrio : Message where
  name := "OrderModifySamePrio"
  typeId := 13106
  members := [
    ("messageHeader", messageHeaderComp.layout), ("requestTime", requestTime),
    ("transactTime", transactTime), ("prevDisplayQty", prevDisplayQty), ("securityID", securityID),
    ("orderDetails", orderDetailsComp.layout)]
  table := [
    "messageHeader", "requestTime", "transactTime", "prevDisplayQty", "securityID", "orderDetails"]

def packetHeader : Message where
  name := "PacketHeader"
  typeId := 13004
  members := [
    ("messageHeader", messageHeaderComp.layout), ("applSeqNum", applSeqNum),
    ("marketSegmentID", marketSegmentID), ("partitionID", partitionID),
    ("completionIndicator", completionIndicator.optional),
    ("applSeqResetIndicator", applSeqResetIndicator.optional), ("dSCP", dscp), ("pad4", padding 4),
    ("transactTime", transactTime)]
  table := [
    "messageHeader", "applSeqNum", "marketSegmentID", "partitionID", "completionIndicator",
    "applSeqResetIndicator", "dSCP", "pad4", "transactTime"]

def partialOrderExecution : Message where
  name := "PartialOrderExecution"
  typeId := 13105
  members := [
    ("messageHeader", messageHeaderComp.layout), ("side", side.optional),
    ("ordType", ordType.optional),
    ("algorithmicTradeIndicator", algorithmicTradeIndicator.optional),
    ("hHIIndicator", hhiIndicator.optional), ("trdMatchID", trdMatchID), ("price", price),
    ("trdRegTSTimePriority", trdRegTSTimePriority), ("securityID", securityID),
    ("lastQty", lastQty), ("lastPx", lastPx)]
  table := [
    "messageHeader", "side", "ordType", "algorithmicTradeIndicator", "hHIIndicator", "trdMatchID",
    "price", "trdRegTSTimePriority", "securityID", "lastQty", "lastPx"]

def productStateChange : Message where
  name := "ProductStateChange"
  typeId := 13300
  members := [
    ("messageHeader", messageHeaderComp.layout), ("tradingSessionID", tradingSessionID.optional),
    ("tradingSessionSubID", tradingSessionSubID.optional),
    ("tradSesStatus", tradSesStatus.optional), ("marketCondition", marketCondition.optional),
    ("fastMarketIndicator", fastMarketIndicator.optional),
    ("tESTradSesStatus", tesTradSesStatus.optional), ("pad2", padding 2),
    ("transactTime", transactTime)]
  table := [
    "messageHeader", "tradingSessionID", "tradingSessionSubID", "tradSesStatus", "marketCondition",
    "fastMarketIndicator", "tESTradSesStatus", "pad2", "transactTime"]

def productSummary : Message where
  name := "ProductSummary"
  typeId := 13600
  members := [
    ("messageHeader", messageHeaderComp.layout), ("lastMsgSeqNumProcessed", lastMsgSeqNumProcessed),
    ("tradingSessionID", tradingSessionID.optional),
    ("tradingSessionSubID", tradingSessionSubID.optional),
    ("tradSesStatus", tradSesStatus.optional), ("marketCondition", marketCondition.optional),
    ("fastMarketIndicator", fastMarketIndicator.optional),
    ("tESTradSesStatus", tesTradSesStatus.optional), ("pad6", padding 6)]
  table := [
    "messageHeader", "lastMsgSeqNumProcessed", "tradingSessionID", "tradingSessionSubID",
    "tradSesStatus", "marketCondition", "fastMarketIndicator", "tESTradSesStatus", "pad6"]

def quoteRequest : Message where
  name := "QuoteRequest"
  typeId := 13503
  members := [
    ("messageHeader", messageHeaderComp.layout), ("securityID", securityID), ("lastQty", lastQty),
    ("side", side.optional), ("pad7", padding 7), ("transactTime", transactTime)]
  table := ["messageHeader", "securityID", "lastQty", "side", "pad7", "transactTime"]

def snapshotOrder : Message where
  name := "SnapshotOrder"
  typeId := 13602
  members := [
    ("messageHeader", messageHeaderComp.layout), ("orderDetails", orderDetailsComp.layout)]
  table := ["messageHeader", "orderDetails"]

def tesTradeReport : Message where
  name := "TESTradeReport"
  typeId := 13203
  members := [
    ("messageHeader", messageHeaderComp.layout), ("securityID", securityID),
    ("transactTime", transactTime), ("lastQty", lastQty), ("lastPx", lastPx),
    ("trdMatchID", trdMatchID), ("trdType", trdType.optional),
    ("tradeCondition", tradeCondition.optional),
    ("multiLegReportingType", multiLegReportingType.optional),
    ("multiLegPriceModel", multiLegPriceModel.optional), ("pad6", padding 6),
    ("nonDisclosedTradeVolume", nonDisclosedTradeVolume), ("transBkdTime", transBkdTime),
    ("numberOfBuySides", numberOfBuySides), ("numberOfSellSides", numberOfSellSides),
    ("pad4", padding 4)]
  table := [
    "messageHeader", "securityID", "transactTime", "lastQty", "lastPx", "trdMatchID", "trdType",
    "tradeCondition", "multiLegReportingType", "multiLegPriceModel", "pad6",
    "nonDisclosedTradeVolume", "transBkdTime", "numberOfBuySides", "numberOfSellSides", "pad4"]

def topOfBook : Message where
  name := "TopOfBook"
  typeId := 13504
  members := [
    ("messageHeader", messageHeaderComp.layout), ("transactTime", transactTime),
    ("securityID", securityID), ("bidPx", bidPx), ("offerPx", offerPx), ("bidSize", bidSize),
    ("offerSize", offerSize), ("numberOfBuyOrders", numberOfBuyOrders),
    ("numberOfSellOrders", numberOfSellOrders), ("pad4", padding 4)]
  table := [
    "messageHeader", "transactTime", "securityID", "bidPx", "offerPx", "bidSize", "offerSize",
    "numberOfBuyOrders", "numberOfSellOrders", "pad4"]

def tradeReport : Message where
  name := "TradeReport"
  typeId := 13201
  members := [
    ("messageHeader", messageHeaderComp.layout), ("securityID", securityID),
    ("transactTime", transactTime), ("lastQty", lastQty), ("lastPx", lastPx),
    ("trdMatchID", trdMatchID), ("matchType", matchType.optional),
    ("matchSubType", matchSubType.optional),
    ("algorithmicTradeIndicator", algorithmicTradeIndicator.optional), ("pad1", padding 1),
    ("tradeCondition", tradeCondition.optional), ("pad6", padding 6)]
  table := [
    "messageHeader", "securityID", "transactTime", "lastQty", "lastPx", "trdMatchID", "matchType",
    "matchSubType", "algorithmicTradeIndicator", "pad1", "tradeCondition", "pad6"]

def tradeReversal : Message where
  name := "TradeReversal"
  typeId := 13200
  members := [
    ("messageHeader", messageHeaderComp.layout), ("securityID", securityID),
    ("transactTime", transactTime), ("lastQty", lastQty), ("lastPx", lastPx),
    ("trdRegTSExecutionTime", trdRegTSExecutionTime), ("trdMatchID", trdMatchID),
    ("tradeCondition", tradeCondition.optional), ("mDOriginType", mdOriginType.optional),
    ("noMDEntries", noMDEntries), ("mDTradeEntryGrp", mdTradeEntryGrpComp.layout)]
  table := [
    "messageHeader", "securityID", "transactTime", "lastQty", "lastPx", "trdRegTSExecutionTime",
    "trdMatchID", "tradeCondition", "mDOriginType", "noMDEntries", "mDTradeEntryGrp"]

def messages : Variant where
  order := .little
  header := messageHeaderComp.layout
  idInHeader := ["templateID"]
  idOffset := 2
  idType := .uint16
  located := by decide
  alternatives := [
    addComplexInstrument, addFlexibleInstrument, instrumentSummary, addScaledSimpleInstrument,
    partialOrderExecution, auctionBBO, fullOrderExecution, tradeReversal, auctionClearingPrice,
    crossRequest, executionSummary, heartbeat, instrumentStateChange, massInstrumentStateChange,
    orderAdd, orderDelete, orderMassDelete, topOfBook, orderModify, orderModifySamePrio,
    packetHeader, snapshotOrder, productStateChange, productSummary, quoteRequest, tesTradeReport,
    tradeReport]
  distinct := by decide
  idMember := ["messageHeader", "templateID"]
  carried := by decide +kernel

end MdPrsr.Eobi.V130

namespace MdPrsr.Eobi.V131
open Wire

def bodyLen : MemberType := optional .uint16 0xFFFF
def msgSeqNum : MemberType := optional .uint32 0xFFFFFFFF
def securityID : MemberType := optional .uint64 0x8000000000000000
def transactTime : MemberType := optional .uint64 0xFFFFFFFFFFFFFFFF
def securityDesc : MemberType := chars 40
def securitySubType : MemberType := optional .uint32 0x80000000
def quantityScalingFactor : MemberType := optional .uint16 0xFFFF
def legRatioMultiplier : MemberType := optional .uint32 0xFFFFFFFF
def noLegs : MemberType := optional .uint8 0xFF
def legSymbol : MemberType := optional .uint32 0x80000000
def legSecurityID : MemberType := optional .uint64 0x8000000000000000
def legPrice : MemberType := optional (floatDecimal .uint64 8) 0x8000000000000000
def legRatioQty : MemberType := optional .uint32 0x80000000
def relatedPrice : MemberType := optional (floatDecimal .uint64 8) 0x8000000000000000
def maturityDate : MemberType := optional .uint32 0xFFFFFFFF
def strikePrice : MemberType := optional (floatDecimal .uint64 8) 0x8000000000000000
def optAttribute : MemberType := optional .uint32 0xFFFFFFFF
def contractDate : MemberType := optional .uint32 0xFFFFFFFF
def securityReferenceDataSupplement : MemberType := optional .uint32 0xFFFFFFFF
def relatedSecurityID : MemberType := optional .uint64 0x8000000000000000
def bidPx : MemberType := optional (floatDecimal .uint64 8) 0x8000000000000000
def offerPx : MemberType := optional (floatDecimal .uint64 8) 0x8000000000000000
def bidSize : MemberType := optional (floatDecimal .uint64 4) 0x8000000000000000
def offerSize : MemberType := optional (floatDecimal .uint64 4) 0x8000000000000000
def lastPx : MemberType := optional (floatDecimal .uint64 8) 0x8000000000000000
def lastQty : MemberType := optional (floatDecimal .uint64 4) 0x8000000000000000
def imbalanceQty : MemberType := optional (floatDecimal .uint64 4) 0x8000000000000000
def requestTime : MemberType := optional .uint64 0xFFFFFFFFFFFFFFFF
def execID : MemberType := optional .uint64 0xFFFFFFFFFFFFFFFF
def tradingHHIIndicator : MemberType := optional .uint8 0xFF
def trdRegTSPrevTimePriority : MemberType := optional .uint64 0xFFFFFFFFFFFFFFFF
def displayQty : MemberType := optional (floatDecimal .uint64 4) 0x8000000000000000
def price : MemberType := optional (floatDecimal .uint64 8) 0x8000000000000000
def restingHiddenQty : MemberType := optional (floatDecimal .uint64 4) 0x8000000000000000
def restingCxlQty : MemberType := optional (floatDecimal .uint64 4) 0x8000000000000000
def aggressorTime : MemberType := optional .uint64 0xFFFFFFFFFFFFFFFF
def trdMatchID : MemberType := optional .uint32 0xFFFFFFFF
def trdRegTSTimePriority : MemberType := optional .uint64 0xFFFFFFFFFFFFFFFF
def lastMsgSeqNumProcessed : MemberType := optional .uint32 0xFFFFFFFF
def highPx : MemberType := optional (floatDecimal .uint64 8) 0x8000000000000000
def lowPx : MemberType := optional (floatDecimal .uint64 8) 0x8000000000000000
def lastUpdateTime : MemberType := optional .uint64 0xFFFFFFFFFFFFFFFF
def trdRegTSExecutionTime : MemberType := optional .uint64 0xFFFFFFFFFFFFFFFF
def totNoOrders : MemberType := optional .uint16 0xFFFF
def noMDEntries : MemberType := optional .uint8 0xFF
def mdEntryPx : MemberType := optional (floatDecimal .uint64 8) 0x8000000000000000
def mdEntrySize : MemberType := optional (floatDecimal .uint64 4) 0x8000000000000000
def nonDisclosedTradeVolume : MemberType := optional (floatDecimal .uint64 4) 0x8000000000000000
def noRelatedSym : MemberType := optional .uint8 0xFF
def prevPrice : MemberType := optional (floatDecimal .uint64 8) 0x8000000000000000
def prevDisplayQty : MemberType := optional (floatDecimal .uint64 4) 0x8000000000000000
def applSeqNum : MemberType := optional .uint32 0xFFFFFFFF
def marketSegmentID : MemberType := optional .uint32 0x80000000
def partitionID : MemberType := optional .uint8 0xFF
def dscp : MemberType := optional .uint8 0xFF
def transBkdTime : MemberType := optional .uint64 0xFFFFFFFFFFFFFFFF
def numberOfBuySides : MemberType := optional .uint16 0xFFFF
def numberOfSellSides : MemberType := optional .uint16 0xFFFF
def numberOfBuyOrders : MemberType := optional .uint16 0xFFFF
def numberOfSellOrders : MemberType := optional .uint16 0xFFFF

def productComplex : Enumeration := ⟨.uint8, 0xFF⟩
def impliedMarketIndicator : Enumeration := ⟨.uint8, 0xFF⟩
def lastFragment : Enumeration := ⟨.uint8, 0xFF⟩
def legSecurityType : Enumeration := ⟨.uint8, 0xFF⟩
def legSide : Enumeration := ⟨.uint8, 0xFF⟩
def relatedPriceType : Enumeration := ⟨.uint8, 0xFF⟩
def tradingStyle : Enumeration := ⟨.uint8, 0xFF⟩
def securityType : Enumeration := ⟨.uint8, 0xFF⟩
def putOrCall : Enumeration := ⟨.uint8, 0xFF⟩
def exerciseStyle : Enumeration := ⟨.uint8, 0xFF⟩
def settlMethod : Enumeration := ⟨.uint8, 0xFF⟩
def potentialSecurityTradingEvent : Enumeration := ⟨.uint8, 0xFF⟩
def bidOrdType : Enumeration := ⟨.uint8, 0xFF⟩
def offerOrdType : Enumeration := ⟨.uint8, 0xFF⟩
def securityTradingStatus : Enumeration := ⟨.uint8, 0xFF⟩
def side : Enumeration := ⟨.uint8, 0xFF⟩
def crossRequestType : Enumeration := ⟨.uint8, 0xFF⟩
def inputSource : Enumeration := ⟨.uint8, 0xFF⟩
def aggressorSide : Enumeration := ⟨.uint8, 0xFF⟩
def tradeCondition : Enumeration := ⟨.uint16, 0xFFFF⟩
def ordType : Enumeration := ⟨.uint8, 0xFF⟩
def algorithmicTradeIndicator : Enumeration := ⟨.uint8, 0xFF⟩
def hhiIndicator : Enumeration := ⟨.uint8, 0x80⟩
def securityStatus : Enumeration := ⟨.uint8, 0xFF⟩
def marketCondition : Enumeration := ⟨.uint8, 0xFF⟩
def fastMarketIndicator : Enumeration := ⟨.uint8, 0xFF⟩
def securityTradingEvent : Enumeration := ⟨.uint8, 0xFF⟩
def soldOutIndicator : Enumeration := ⟨.uint8, 0xFF⟩
def tesSecurityStatus : Enumeration := ⟨.uint8, 0xFF⟩
def mdOriginType : Enumeration := ⟨.uint8, 0xFF⟩
def mdEntryType : Enumeration := ⟨.uint8, 0xFF⟩
def trdType : Enumeration := ⟨.uint16, 0xFFFF⟩
def multiLegReportingType : Enumeration := ⟨.uint8, 0xFF⟩
def multiLegPriceModel : Enumeration := ⟨.uint8, 0xFF⟩
def instrumentScopeProductComplex : Enumeration := ⟨.uint8, 0xFF⟩
def securityMassStatus : Enumeration := ⟨.uint8, 0xFF⟩
def securityMassTradingStatus : Enumeration := ⟨.uint8, 0xFF⟩
def massMarketCondition : Enumeration := ⟨.uint8, 0xFF⟩
def securityMassTradingEvent : Enumeration := ⟨.uint8, 0xFF⟩
def massSoldOutIndicator : Enumeration := ⟨.uint8, 0xFF⟩
def tesSecurityMassStatus : Enumeration := ⟨.uint8, 0xFF⟩
def prevPriceHHIIndicator : Enumeration := ⟨.uint8, 0x80⟩
def completionIndicator : Enumeration := ⟨.uint8, 0xFF⟩
def applSeqResetIndicator : Enumeration := ⟨.uint8, 0xFF⟩
def tradingSessionID : Enumeration := ⟨.uint8, 0xFF⟩
def tradingSessionSubID : Enumeration := ⟨.uint8, 0xFF⟩
def tradSesStatus : Enumeration := ⟨.uint8, 0xFF⟩
def tesTradSesStatus : Enumeration := ⟨.uint8, 0xFF⟩
def matchType : Enumeration := ⟨.uint8, 0xFF⟩
def matchSubType : Enumeration := ⟨.uint8, 0xFF⟩

def messageHeaderComp : Struct where
  members := [("bodyLen", bodyLen), ("templateID", uint16), ("msgSeqNum", msgSeqNum)]
  table := ["bodyLen", "templateID", "msgSeqNum"]

def instrmtLegGrpComp : Struct where
  members := [
    ("legSymbol", legSymbol), ("pad4", padding 4), ("legSecurityID", legSecurityID),
    ("legPrice", legPrice), ("legRatioQty", legRatioQty),
    ("legSecurityType", legSecurityType.optional), ("legSide", legSide.optional),
    ("relatedPriceType", relatedPriceType.optional), ("tradingStyle", tradingStyle.optional),
    ("relatedPrice", relatedPrice)]
  table := [
    "legSymbol", "pad4", "legSecurityID", "legPrice", "legRatioQty", "legSecurityType", "legSide",
    "relatedPriceType", "tradingStyle", "relatedPrice"]

def relatedInstrumentGrpComp : Struct where
  members := [("relatedSecurityID", relatedSecurityID)]
  table := ["relatedSecurityID"]

def remainingOrderDetailsComp : Struct where
  members := [
    ("trdRegTSPrevTimePriority", trdRegTSPrevTimePriority), ("displayQty", displayQty),
    ("price", price)]
  table := ["trdRegTSPrevTimePriority", "displayQty", "price"]

def mdInstrumentEntryGrpComp : Struct where
  members := [
    ("mDEntryPx", mdEntryPx), ("mDEntrySize", mdEntrySize), ("mDOriginType", mdOriginType.optional),
    ("mDEntryType", mdEntryType.optional), ("tradeCondition", tradeCondition.optional),
    ("trdType", trdType.optional), ("multiLegReportingType", multiLegReportingType.optional),
    ("multiLegPriceModel", multiLegPriceModel.optional),
    ("nonDisclosedTradeVolume", nonDisclosedTradeVolume)]
  table := [
    "mDEntryPx", "mDEntrySize", "mDOriginType", "mDEntryType", "tradeCondition", "trdType",
    "multiLegReportingType", "multiLegPriceModel", "nonDisclosedTradeVolume"]

def mdTradeEntryGrpComp : Struct where
  members := [
    ("mDEntryPx", mdEntryPx), ("mDEntrySize", mdEntrySize), ("mDEntryType", mdEntryType.optional),
    ("pad7", padding 7)]
  table := ["mDEntryPx", "mDEntrySize", "mDEntryType", "pad7"]

def secMassStatGrpComp : Struct where
  members := [
    ("securityID", securityID), ("highPx", highPx), ("lowPx", lowPx),
    ("securityStatus", securityStatus.optional),
    ("securityTradingStatus", securityTradingStatus.optional),
    ("marketCondition", marketCondition.optional),
    ("securityTradingEvent", securityTradingEvent.optional),
    ("soldOutIndicator", soldOutIndicator.optional),
    ("tESSecurityStatus", tesSecurityStatus.optional), ("pad2", padding 2)]
  table := [
    "securityID", "highPx", "lowPx", "securityStatus", "securityTradingStatus", "marketCondition",
    "securityTradingEvent", "soldOutIndicator", "tESSecurityStatus", "pad2"]

def orderDetailsComp : Struct where
  members := [
    ("trdRegTSTimePriority", trdRegTSTimePriority), ("displayQty", displayQty),
    ("side", side.optional), ("ordType", ordType.optional), ("hHIIndicator", hhiIndicator.optional),
    ("pad5", padding 5), ("price", price)]
  table := [
    "trdRegTSTimePriority", "displayQty", "side", "ordType", "hHIIndicator", "pad5", "price"]

def addComplexInstrument : Message where
  name := "AddComplexInstrument"
  typeId := 13400
  members := [
    ("messageHeader", messageHeaderComp.layout), ("securityID", securityID),
    ("transactTime", transactTime), ("securityDesc", securityDesc),
    ("securitySubType", securitySubType), ("productComplex", productComplex.optional),
    ("impliedMarketIndicator", impliedMarketIndicator.optional),
    ("quantityScalingFactor", quantityScalingFactor), ("legRatioMultiplier", legRatioMultiplier),
    ("noLegs", noLegs), ("pad2", padding 2), ("lastFragment", lastFragment.optional),
    ("instrmtLegGrp", instrmtLegGrpComp.layout)]
  table := [
    "messageHeader", "securityID", "transactTime", "securityDesc", "securitySubType",
    "productComplex", "impliedMarketIndicator", "quantityScalingFactor", "legRatioMultiplier",
    "noLegs", "pad2", "lastFragment", "instrmtLegGrp"]

def addFlexibleInstrument : Message where
  name := "AddFlexibleInstrument"
  typeId := 13401
  members := [
    ("messageHeader", messageHeaderComp.layout), ("securityID", securityID),
    ("transactTime", transactTime), ("securityDesc", securityDesc),
    ("securityType", securityType.optional), ("putOrCall", putOrCall.optional),
    ("exerciseStyle", exerciseStyle.optional), ("settlMethod", settlMethod.optional),
    ("maturityDate", maturityDate), ("strikePrice", strikePrice), ("optAttribute", optAttribute),
    ("contractDate", contractDate),
    ("securityReferenceDataSupplement", securityReferenceDataSupplement), ("pad4", padding 4)]
  table := [
    "messageHeader", "securityID", "transactTime", "securityDesc", "securityType", "putOrCall",
    "exerciseStyle", "settlMethod", "maturityDate", "strikePrice", "optAttribute", "contractDate",
    "securityReferenceDataSupplement", "pad4"]

def addScaledSimpleInstrument : Message where
  name := "AddScaledSimpleInstrument"
  typeId := 13402
  members := [
    ("messageHeader", messageHeaderComp.layout), ("securityID", securityID),
    ("transactTime", transactTime), ("securityDesc", securityDesc),
    ("securityType", securityType.optional), ("pad1", padding 1),
    ("quantityScalingFactor", quantityScalingFactor), ("pad4", padding 4),
    ("relatedInstrumentGrp", relatedInstrumentGrpComp.layout)]
  table := [
    "messageHeader", "securityID", "transactTime", "securityDesc", "securityType", "pad1",
    "quantityScalingFactor", "pad4", "relatedInstrumentGrp"]

def auctionBBO : Message where
  name := "AuctionBBO"
  typeId := 13500
  members := [
    ("messageHeader", messageHeaderComp.layout), ("transactTime", transactTime),
    ("securityID", securityID), ("bidPx", bidPx), ("offerPx", offerPx), ("bidSize", bidSize),
    ("offerSize", offerSize),
    ("potentialSecurityTradingEvent", potentialSecurityTradingEvent.optional),
    ("bidOrdType", bidOrdType.optional), ("offerOrdType", offerOrdType.optional),
    ("pad5", padding 5)]
  table := [
    "messageHeader", "transactTime", "securityID", "bidPx", "offerPx", "bidSize", "offerSize",
    "potentialSecurityTradingEvent", "bidOrdType", "offerOrdType", "pad5"]

def auctionClearingPrice : Message where
  name := "AuctionClearingPrice"
  typeId := 13501
  members := [
    ("messageHeader", messageHeaderComp.layout), ("transactTime", transactTime),
    ("securityID", securityID), ("lastPx", lastPx), ("lastQty", lastQty),
    ("imbalanceQty", imbalanceQty), ("securityTradingStatus", securityTradingStatus.optional),
    ("potentialSecurityTradingEvent", potentialSecurityTradingEvent.optional), ("pad6", padding 6)]
  table := [
    "messageHeader", "transactTime", "securityID", "lastPx", "lastQty", "imbalanceQty",
    "securityTradingStatus", "potentialSecurityTradingEvent", "pad6"]

def crossRequest : Message where
  name := "CrossRequest"
  typeId := 13502
  members := [
    ("messageHeader", messageHeaderComp.layout), ("securityID", securityID), ("lastPx", lastPx),
    ("lastQty", lastQty), ("side", side.optional), ("crossRequestType", crossRequestType.optional),
    ("inputSource", inputSource.optional), ("pad5", padding 5), ("transactTime", transactTime)]
  table := [
    "messageHeader", "securityID", "lastPx", "lastQty", "side", "crossRequestType", "inputSource",
    "pad5", "transactTime"]

def executionSummary : Message where
  name := "ExecutionSummary"
  typeId := 13202
  members := [
    ("messageHeader", messageHeaderComp.layout), ("securityID", securityID),
    ("requestTime", requestTime), ("execID", execID), ("lastQty", lastQty),
    ("aggressorSide", aggressorSide.optional), ("pad1", padding 1),
    ("tradeCondition", tradeCondition.optional), ("tradingHHIIndicator", tradingHHIIndicator),
    ("pad3", padding 3), ("lastPx", lastPx),
    ("remainingOrderDetails", remainingOrderDetailsComp.layout),
    ("restingHiddenQty", restingHiddenQty), ("restingCxlQty", restingCxlQty),
    ("aggressorTime", aggressorTime)]
  table := [
    "messageHeader", "securityID", "requestTime", "execID", "lastQty", "aggressorSide", "pad1",
    "tradeCondition", "tradingHHIIndicator", "pad3", "lastPx", "remainingOrderDetails",
    "restingHiddenQty", "restingCxlQty", "aggressorTime"]

def fullOrderExecution : Message where
  name := "FullOrderExecution"
  typeId := 13104
  members := [
    ("messageHeader", messageHeaderComp.layout), ("side", side.optional),
    ("ordType", ordType.optional),
    ("algorithmicTradeIndicator", algorithmicTradeIndicator.optional),
    ("hHIIndicator", hhiIndicator.optional), ("trdMatchID", trdMatchID), ("price", price),
    ("trdRegTSTimePriority", trdRegTSTimePriority), ("securityID", securityID),
    ("lastQty", lastQty), ("lastPx", lastPx)]
  table := [
    "messageHeader", "side", "ordType", "algorithmicTradeIndicator", "hHIIndicator", "trdMatchID",
    "price", "trdRegTSTimePriority", "securityID", "lastQty", "lastPx"]

def heartbeat : Message where
  name := "Heartbeat"
  typeId := 13001
  members := [
    ("messageHeader", messageHeaderComp.layout), ("lastMsgSeqNumProcessed", lastMsgSeqNumProcessed),
    ("pad4", padding 4)]
  table := ["messageHeader", "lastMsgSeqNumProcessed", "pad4"]

def instrumentStateChange : Message where
  name := "InstrumentStateChange"
  typeId := 13301
  members := [
    ("messageHeader", messageHeaderComp.layout), ("securityID", securityID),
    ("securityStatus", securityStatus.optional),
    ("securityTradingStatus", securityTradingStatus.optional),
    ("marketCondition", marketCondition.optional),
    ("fastMarketIndicator", fastMarketIndicator.optional),
    ("securityTradingEvent", securityTradingEvent.optional),
    ("soldOutIndicator", soldOutIndicator.optional), ("pad2", padding 2), ("highPx", highPx),
    ("lowPx", lowPx), ("transactTime", transactTime),
    ("tESSecurityStatus", tesSecurityStatus.optional), ("pad7", padding 7)]
  table := [
    "messageHeader", "securityID", "securityStatus", "securityTradingStatus", "marketCondition",
    "fastMarketIndicator", "securityTradingEvent", "soldOutIndicator", "pad2", "highPx", "lowPx",
    "transactTime", "tESSecurityStatus", "pad7"]

def instrumentSummary : Message where
  name := "InstrumentSummary"
  typeId := 13601
  members := [
    ("messageHeader", messageHeaderComp.layout), ("securityID", securityID),
    ("lastUpdateTime", lastUpdateTime), ("trdRegTSExecutionTime", trdRegTSExecutionTime),
    ("totNoOrders", totNoOrders), ("securityStatus", securityStatus.optional),
    ("securityTradingStatus", securityTradingStatus.optional),
    ("marketCondition", marketCondition.optional),
    ("fastMarketIndicator", fastMarketIndicator.optional),
    ("securityTradingEvent", securityTradingEvent.optional),
    ("soldOutIndicator", soldOutIndicator.optional), ("highPx", highPx), ("lowPx", lowPx),
    ("productComplex", productComplex.optional), ("noMDEntries", noMDEntries),
    ("tESSecurityStatus", tesSecurityStatus.optional), ("pad5", padding 5),
    ("mDInstrumentEntryGrp", mdInstrumentEntryGrpComp.layout)]
  table := [
    "messageHeader", "securityID", "lastUpdateTime", "trdRegTSExecutionTime", "totNoOrders",
    "securityStatus", "securityTradingStatus", "marketCondition", "fastMarketIndicator",
    "securityTradingEvent", "soldOutIndicator", "highPx", "lowPx", "productComplex", "noMDEntries",
    "tESSecurityStatus", "pad5", "mDInstrumentEntryGrp"]

def massInstrumentStateChange : Message where
  name := "MassInstrumentStateChange"
  typeId := 13302
  members := [
    ("messageHeader", messageHeaderComp.layout),
    ("instrumentScopeProductComplex", instrumentScopeProductComplex.optional),
    ("securityMassStatus", securityMassStatus.optional),
    ("securityMassTradingStatus", securityMassTradingStatus.optional),
    ("massMarketCondition", massMarketCondition.optional),
    ("fastMarketIndicator", fastMarketIndicator.optional),
    ("securityMassTradingEvent", securityMassTradingEvent.optional),
    ("massSoldOutIndicator", massSoldOutIndicator.optional),
    ("tESSecurityMassStatus", tesSecurityMassStatus.optional), ("transactTime", transactTime),
    ("lastFragment", lastFragment.optional), ("noRelatedSym", noRelatedSym), ("pad6", padding 6),
    ("secMassStatGrp", secMassStatGrpComp.layout)]
  table := [
    "messageHeader", "instrumentScopeProductComplex", "securityMassStatus",
    "securityMassTradingStatus", "massMarketCondition", "fastMarketIndicator",
    "securityMassTradingEvent", "massSoldOutIndicator", "tESSecurityMassStatus", "transactTime",
    "lastFragment", "noRelatedSym", "pad6", "secMassStatGrp"]

def orderAdd : Message where
  name := "OrderAdd"
  typeId := 13100
  members := [
    ("messageHeader", messageHeaderComp.layout), ("requestTime", requestTime),
    ("securityID", securityID), ("orderDetails", orderDetailsComp.layout)]
  table := ["messageHeader", "requestTime", "securityID", "orderDetails"]

def orderDelete : Message where
  name := "OrderDelete"
  typeId := 13102
  members := [
    ("messageHeader", messageHeaderComp.layout), ("requestTime", requestTime),
    ("transactTime", transactTime), ("securityID", securityID),
    ("orderDetails", orderDetailsComp.layout)]
  table := ["messageHeader", "requestTime", "transactTime", "securityID", "orderDetails"]

def orderMassDelete : Message where
  name := "OrderMassDelete"
  typeId := 13103
  members := [
    ("messageHeader", messageHeaderComp.layout), ("securityID", securityID),
    ("transactTime", transactTime)]
  table := ["messageHeader", "securityID", "transactTime"]

def orderModify : Message where
  name := "OrderModify"
  typeId := 13101
  members := [
    ("messageHeader", messageHeaderComp.layout), ("requestTime", requestTime),
    ("trdRegTSPrevTimePriority", trdRegTSPrevTimePriority), ("prevPrice", prevPrice),
    ("prevDisplayQty", prevDisplayQty), ("securityID", securityID),
    ("orderDetails", orderDetailsComp.layout),
    ("prevPriceHHIIndicator", prevPriceHHIIndicator.optional), ("pad7", padding 7)]
  table := [
    "messageHeader", "requestTime", "trdRegTSPrevTimePriority", "prevPrice", "prevDisplayQty",
    "securityID", "orderDetails", "prevPriceHHIIndicator", "pad7"]

def orderModifySamePrio : Message where
  name := "OrderModifySamePrio"
  typeId := 13106
  members := [
    ("messageHeader", messageHeaderComp.layout), ("requestTime", requestTime),
    ("transactTime", transactTime), ("prevDisplayQty", prevDisplayQty), ("securityID", securityID),
    ("orderDetails", orderDetailsComp.layout)]
  table := [
    "messageHeader", "requestTime", "transactTime", "prevDisplayQty", "securityID", "orderDetails"]

def packetHeader : Message where
  name := "PacketHeader"
  typeId := 13005
  members := [
    ("messageHeader", messageHeaderComp.layout), ("applSeqNum", applSeqNum),
    ("marketSegmentID", marketSegmentID), ("partitionID", partitionID),
    ("completionIndicator", completionIndicator.optional),
    ("applSeqResetIndicator", applSeqResetIndicator.optional), ("dSCP", dscp), ("pad4", padding 4),
    ("transactTime", transactTime)]
  table := [
    "messageHeader", "applSeqNum", "marketSegmentID", "partitionID", "completionIndicator",
    "applSeqResetIndicator", "dSCP", "pad4", "transactTime"]

def partialOrderExecution : Message where
  name := "PartialOrderExecution"
  typeId := 13105
  members := [
    ("messageHeader", messageHeaderComp.layout), ("side", side.optional),
    ("ordType", ordType.optional),
    ("algorithmicTradeIndicator", algorithmicTradeIndicator.optional),
    ("hHIIndicator", hhiIndicator.optional), ("trdMatchID", trdMatchID), ("price", price),
    ("trdRegTSTimePriority", trdRegTSTimePriority), ("securityID", securityID),
    ("lastQty", lastQty), ("lastPx", lastPx)]
  table := [
    "messageHeader", "side", "ordType", "algorithmicTradeIndicator", "hHIIndicator", "trdMatchID",
    "price", "trdRegTSTimePriority", "securityID", "lastQty", "lastPx"]

def productStateChange : Message where
  name := "ProductStateChange"
  typeId := 13300
  members := [
    ("messageHeader", messageHeaderComp.layout), ("tradingSessionID", tradingSessionID.optional),
    ("tradingSessionSubID", tradingSessionSubID.optional),
    ("tradSesStatus", tradSesStatus.optional), ("marketCondition", marketCondition.optional),
    ("fastMarketIndicator", fastMarketIndicator.optional),
    ("tESTradSesStatus", tesTradSesStatus.optional), ("pad2", padding 2),
    ("transactTime", transactTime)]
  table := [
    "messageHeader", "tradingSessionID", "tradingSessionSubID", "tradSesStatus", "marketCondition",
    "fastMarketIndicator", "tESTradSesStatus", "pad2", "transactTime"]

def productSummary : Message where
  name := "ProductSummary"
  typeId := 13600
  members := [
    ("messageHeader", messageHeaderComp.layout), ("lastMsgSeqNumProcessed", lastMsgSeqNumProcessed),
    ("tradingSessionID", tradingSessionID.optional),
    ("tradingSessionSubID", tradingSessionSubID.optional),
    ("tradSesStatus", tradSesStatus.optional), ("marketCondition", marketCondition.optional),
    ("fastMarketIndicator", fastMarketIndicator.optional),
    ("tESTradSesStatus", tesTradSesStatus.optional), ("pad6", padding 6)]
  table := [
    "messageHeader", "lastMsgSeqNumProcessed", "tradingSessionID", "tradingSessionSubID",
    "tradSesStatus", "marketCondition", "fastMarketIndicator", "tESTradSesStatus", "pad6"]

def quoteRequest : Message where
  name := "QuoteRequest"
  typeId := 13503
  members := [
    ("messageHeader", messageHeaderComp.layout), ("securityID", securityID), ("lastQty", lastQty),
    ("side", side.optional), ("pad7", padding 7), ("transactTime", transactTime)]
  table := ["messageHeader", "securityID", "lastQty", "side", "pad7", "transactTime"]

def snapshotOrder : Message where
  name := "SnapshotOrder"
  typeId := 13602
  members := [
    ("messageHeader", messageHeaderComp.layout), ("orderDetails", orderDetailsComp.layout)]
  table := ["messageHeader", "orderDetails"]

def tesTradeReport : Message where
  name := "TESTradeReport"
  typeId := 13203
  members := [
    ("messageHeader", messageHeaderComp.layout), ("securityID", securityID),
    ("transactTime", transactTime), ("lastQty", lastQty), ("lastPx", lastPx),
    ("trdMatchID", trdMatchID), ("trdType", trdType.optional),
    ("tradeCondition", tradeCondition.optional),
    ("multiLegReportingType", multiLegReportingType.optional),
    ("multiLegPriceModel", multiLegPriceModel.optional), ("pad6", padding 6),
    ("nonDisclosedTradeVolume", nonDisclosedTradeVolume), ("transBkdTime", transBkdTime),
    ("numberOfBuySides", numberOfBuySides), ("numberOfSellSides", numberOfSellSides),
    ("pad4", padding 4)]
  table := [
    "messageHeader", "securityID", "transactTime", "lastQty", "lastPx", "trdMatchID", "trdType",
    "tradeCondition", "multiLegReportingType", "multiLegPriceModel", "pad6",
    "nonDisclosedTradeVolume", "transBkdTime", "numberOfBuySides", "numberOfSellSides", "pad4"]

def topOfBook : Message where
  name := "TopOfBook"
  typeId := 13504
  members := [
    ("messageHeader", messageHeaderComp.layout), ("transactTime", transactTime),
    ("securityID", securityID), ("bidPx", bidPx), ("offerPx", offerPx), ("bidSize", bidSize),
    ("offerSize", offerSize), ("numberOfBuyOrders", numberOfBuyOrders),
    ("numberOfSellOrders", numberOfSellOrders), ("pad4", padding 4)]
  table := [
    "messageHeader", "transactTime", "securityID", "bidPx", "offerPx", "bidSize", "offerSize",
    "numberOfBuyOrders", "numberOfSellOrders", "pad4"]

def tradeReport : Message where
  name := "TradeReport"
  typeId := 13201
  members := [
    ("messageHeader", messageHeaderComp.layout), ("securityID", securityID),
    ("transactTime", transactTime), ("lastQty", lastQty), ("lastPx", lastPx),
    ("trdMatchID", trdMatchID), ("matchType", matchType.optional),
    ("matchSubType", matchSubType.optional),
    ("algorithmicTradeIndicator", algorithmicTradeIndicator.optional), ("pad1", padding 1),
    ("tradeCondition", tradeCondition.optional), ("pad6", padding 6)]
  table := [
    "messageHeader", "securityID", "transactTime", "lastQty", "lastPx", "trdMatchID", "matchType",
    "matchSubType", "algorithmicTradeIndicator", "pad1", "tradeCondition", "pad6"]

def tradeReversal : Message where
  name := "TradeReversal"
  typeId := 13200
  members := [
    ("messageHeader", messageHeaderComp.layout), ("securityID", securityID),
    ("transactTime", transactTime), ("lastQty", lastQty), ("lastPx", lastPx),
    ("trdRegTSExecutionTime", trdRegTSExecutionTime), ("trdMatchID", trdMatchID),
    ("tradeCondition", tradeCondition.optional), ("mDOriginType", mdOriginType.optional),
    ("noMDEntries", noMDEntries), ("mDTradeEntryGrp", mdTradeEntryGrpComp.layout)]
  table := [
    "messageHeader", "securityID", "transactTime", "lastQty", "lastPx", "trdRegTSExecutionTime",
    "trdMatchID", "tradeCondition", "mDOriginType", "noMDEntries", "mDTradeEntryGrp"]

def messages : Variant where
  order := .little
  header := messageHeaderComp.layout
  idInHeader := ["templateID"]
  idOffset := 2
  idType := .uint16
  located := by decide
  alternatives := [
    addComplexInstrument, addFlexibleInstrument, instrumentSummary, addScaledSimpleInstrument,
    partialOrderExecution, auctionBBO, fullOrderExecution, tradeReversal, auctionClearingPrice,
    crossRequest, executionSummary, heartbeat, instrumentStateChange, massInstrumentStateChange,
    orderAdd, orderDelete, orderMassDelete, topOfBook, orderModify, orderModifySamePrio,
    productSummary, packetHeader, snapshotOrder, productStateChange, quoteRequest, tesTradeReport,
    tradeReport]
  distinct := by decide
  idMember := ["messageHeader", "templateID"]
  carried := by decide +kernel

end MdPrsr.Eobi.V131
